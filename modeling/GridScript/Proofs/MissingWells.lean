import GridScript.Proofs.GridSnapshots
import GridScript.Proofs.WellFiles

/-!
# Wells that are asked for and missing

Two commands export wells by name and pass over the names that no well has.  The
one for well paths tells which names these are.  The one for local refinements
says nothing about them: it warns only if nothing at all was exported, and then
without a name.
-/

namespace GridScript

/-- The response warns or fails, and its message has the name in it. -/
def Response.Tells (response : Response) (name : String) : Prop :=
  response.status ≠ .ok ∧ name.toList <:+: response.message.toList

theorem Response.message_warning (text : String) :
    (Response.warning text).message = text := by
  have blank : "".isEmpty = true := by decide
  simp only [warning, update, ok, blank, if_true]
  split
  · rename_i empty
    exact (String.isEmpty_iff.mp empty).symm
  · rfl

theorem Response.warning_tells_iff (text name : String)
    (result : ResultObject) :
    ((Response.warning text).withResult result).Tells name ↔
      name.toList <:+: text.toList := by
  have status : ((Response.warning text).withResult result).status =
      .warning := rfl
  have message : ((Response.warning text).withResult result).message = text :=
    message_warning text
  simp [Tells, status, message]

theorem infix_joinWith {separator name : String} {names : List String}
    (member : name ∈ names) :
    name.toList <:+: (joinWith separator names).toList := by
  induction names with
  | nil => cases member
  | cons first others induction =>
      cases others with
      | nil =>
          rw [List.mem_singleton.mp member]
          exact List.infix_refl _
      | cons second more =>
          rw [joinWith, String.toList_append, String.toList_append]
          rcases List.mem_cons.mp member with rfl | later
          · exact (List.prefix_append _ _).isInfix.trans
              (List.prefix_append _ _).isInfix
          · exact (induction later).trans (List.suffix_append _ _).isInfix
          · simp

theorem Command.response_of_run {action : Arguments → Action Response}
    {arguments : Arguments} {before : Workspace} {response : Response}
    (answer : ((action arguments).run.run before).1 = .ok response) :
    ((ofAction action arguments).run before).1 = response := by
  rw [run_ofAction]
  dsimp only
  rw [answer]

namespace Builtin

open GridScript.Action

/-! ### What the commands ask of the application -/

/-- The request that the arguments make for well paths. -/
def wellPathRequest (arguments : Arguments) (workspace : Workspace) :
    WellPathRequest where
  stepSize := arguments.doubleOr "mdStepSize" usualStepSize
  names := arguments.texts "wellPathNames"
  folder := workspace.exportFolder .wellPaths

/-- The request that the arguments make for local refinements. -/
def lgrRequest (arguments : Arguments) (workspace : Workspace) :
    LgrRequest where
  caseId := idArgument arguments "caseId"
  timeStep := (arguments.intOr "timeStep" 0).toNat
  wellPathNames := arguments.texts "wellPathNames"
  refinement := ((arguments.intOr "refinementI" 1).toNat,
    (arguments.intOr "refinementJ" 1).toNat,
    (arguments.intOr "refinementK" 1).toNat)
  folder := workspace.exportFolder .lgrs

/-- The factor can be read as an unsigned number of 32 bits, and is not zero. -/
def IsRefinement (value : Int) : Prop :=
  1 ≤ value ∧ value < 0x100000000

instance (value : Int) : Decidable (IsRefinement value) :=
  inferInstanceAs (Decidable (1 ≤ value ∧ value < 0x100000000))

theorem run_nonNegative {arguments : Arguments} {name : String}
    (valid : 0 ≤ arguments.intOr name 0) (before : Workspace) :
    (nonNegative arguments name).run.run before =
      (.ok (arguments.intOr name 0).toNat, before) := by
  rw [nonNegative, if_neg (by omega)]
  rfl

theorem run_refinement {arguments : Arguments} {name : String}
    (valid : IsRefinement (arguments.intOr name 1)) (before : Workspace) :
    (refinement arguments name).run.run before =
      (.ok (arguments.intOr name 1).toNat, before) := by
  unfold IsRefinement at valid
  rw [refinement, if_pos valid]
  rfl

theorem selectedWells_of_asked {names : List String} (asked : names ≠ [])
    (app : Application) :
    app.selectedWells names = names.filter app.hasWellPath := by
  rw [Application.selectedWells, if_neg (mt List.isEmpty_iff.mp asked)]

section

variable {arguments : Arguments} {before : Workspace} {disk : Disk}

/-- What the export of well paths answers where its files can be saved. -/
theorem response_exportWellPaths
    (asked : arguments.texts "wellPathNames" ≠ [])
    (positive : (arguments.doubleOr "mdStepSize" usualStepSize).isAtMostZero =
      false)
    (saved : let request := wellPathRequest arguments before
      before.disk.saveAll request.folder (wellFiles request.folder "" ".dev"
        (wellPathText request) ((arguments.texts "wellPathNames").filter
          before.application.hasWellPath)) = .ok disk) :
    let names := arguments.texts "wellPathNames"
    let missing := before.application.missingWells names
    ((exportWellPaths.run arguments).run before).1 =
      (if missing.isEmpty then Response.ok
        else .warning ("well paths not found: " ++
          joinWith ", " missing)).withResult
        (.files ((names.filter before.application.hasWellPath).map
          (wellFile (before.exportFolder .wellPaths) "" ".dev"))) := by
  intro names missing
  rw [← selectedWells_of_asked asked] at saved ⊢
  obtain ⟨after, exporting⟩ : ∃ after, (Action.exportWellPaths
      (wellPathRequest arguments before)).run.run before =
        (.ok ⟨(before.application.selectedWells names).map
          (wellFile (before.exportFolder .wellPaths) "" ".dev"), missing⟩,
          after) := by
    obtain ⟨journal, exporting⟩ := (saves_exportWellPaths before.application
      (wellPathRequest arguments before)).works (.refl _) saved
    exact ⟨_, exporting⟩
  apply Command.response_of_run
  rw [runExportWellPaths]
  dsimp only
  rw [positive, if_neg Bool.false_ne_true, run_get_bind]
  apply (congrArg Prod.fst (run_bind_ok exporting _)).trans
  dsimp only
  by_cases all : missing.isEmpty = true
  · rw [if_pos all, if_pos all]
    rfl
  · rw [if_neg all, if_neg all]
    rfl

/-- What the export of local refinements answers where its files can be
saved. -/
theorem response_exportLgrForCompletions {refined : GridCase}
    (asked : arguments.texts "wellPathNames" ≠ [])
    (timeStep : 0 ≤ arguments.intOr "timeStep" 0)
    (i : IsRefinement (arguments.intOr "refinementI" 1))
    (j : IsRefinement (arguments.intOr "refinementJ" 1))
    (k : IsRefinement (arguments.intOr "refinementK" 1))
    (known : before.application.case? (idArgument arguments "caseId") =
      some refined)
    (saved : let request := lgrRequest arguments before
      before.disk.saveAll request.folder (wellFiles request.folder "lgr_" ".dat"
        (lgrText request refined.id) ((arguments.texts "wellPathNames").filter
          before.application.hasWellPath)) = .ok disk) :
    let wells := (arguments.texts "wellPathNames").filter
      before.application.hasWellPath
    ((exportLgrForCompletions.run arguments).run before).1 =
      (if wells.isEmpty then Response.warning "no LGRs were exported"
        else .ok).withResult
        (.files (wells.map
          (wellFile (before.exportFolder .lgrs) "lgr_" ".dat"))) := by
  intro wells
  have selected : before.application.selectedWells
      (arguments.texts "wellPathNames") = wells :=
    selectedWells_of_asked asked _
  obtain ⟨after, exporting⟩ : ∃ after, (exportLgrs
      (lgrRequest arguments before)).run.run before =
        (.ok (wells.map (wellFile (before.exportFolder .lgrs) "lgr_" ".dat")),
          after) := by
    rw [← selectedWells_of_asked asked] at saved
    obtain ⟨journal, exporting⟩ := (@saves_exportLgrs before.application
      (lgrRequest arguments before) refined known).works (.refl _) saved
    rw [← selected]
    exact ⟨_, exporting⟩
  apply Command.response_of_run
  rw [runExportLgrForCompletions,
    run_bind_ok (run_nonNegative timeStep before),
    run_bind_ok (run_refinement i before),
    run_bind_ok (run_refinement j before),
    run_bind_ok (run_refinement k before), run_get_bind]
  apply (congrArg Prod.fst (run_bind_ok exporting _)).trans
  dsimp only
  rw [List.isEmpty_map]
  rfl

end

/-! ### No well is passed over in silence, but for local refinements -/

/-- Both commands export the wells that are asked for and known, in the order
they are asked for.  The one for well paths tells every name that no well has.
The one for local refinements tells them just if there are none, or if no name
is known and each happens to stand in the warning that nothing was exported. -/
theorem asked_wells_told_iff {arguments : Arguments} {before : Workspace}
    (asked : arguments.texts "wellPathNames" ≠ []) :
    let names := arguments.texts "wellPathNames"
    let isKnown := before.application.hasWellPath
    (∀ {disk : Disk}, let request := wellPathRequest arguments before
      (arguments.doubleOr "mdStepSize" usualStepSize).isAtMostZero = false →
      before.disk.saveAll request.folder (wellFiles request.folder "" ".dev"
        (wellPathText request) (names.filter isKnown)) = .ok disk →
      let response := ((exportWellPaths.run arguments).run before).1
      response.result = some (.files ((names.filter isKnown).map
          (wellFile request.folder "" ".dev"))) ∧
        ∀ name ∈ names, isKnown name = false → response.Tells name) ∧
    ∀ {disk : Disk} {refined : GridCase},
      let request := lgrRequest arguments before
      0 ≤ arguments.intOr "timeStep" 0 →
      IsRefinement (arguments.intOr "refinementI" 1) →
      IsRefinement (arguments.intOr "refinementJ" 1) →
      IsRefinement (arguments.intOr "refinementK" 1) →
      before.application.case? (idArgument arguments "caseId") =
        some refined →
      before.disk.saveAll request.folder (wellFiles request.folder "lgr_" ".dat"
        (lgrText request refined.id) (names.filter isKnown)) = .ok disk →
      let response := ((exportLgrForCompletions.run arguments).run before).1
      response.result = some (.files ((names.filter isKnown).map
          (wellFile request.folder "lgr_" ".dat"))) ∧
        ((∀ name ∈ names, isKnown name = false → response.Tells name) ↔
          (∀ name ∈ names, isKnown name = true) ∨
          ∀ name ∈ names, isKnown name = false ∧
            name.toList <:+: "no LGRs were exported".toList) := by
  intro names isKnown
  constructor
  · intro disk request positive saved response
    have given : response = _ := response_exportWellPaths asked positive saved
    rw [given]
    refine ⟨rfl, ?_⟩
    intro name member unknown
    have missing : name ∈ before.application.missingWells names :=
      List.mem_filter.mpr ⟨member, by simpa using unknown⟩
    rw [if_neg (mt List.isEmpty_iff.mp (List.ne_nil_of_mem missing)),
      Response.warning_tells_iff, String.toList_append]
    exact (infix_joinWith missing).trans (List.suffix_append _ _).isInfix
  · intro disk refined request timeStep i j k known saved response
    have given : response = (if (names.filter isKnown).isEmpty then
        Response.warning "no LGRs were exported" else .ok).withResult
          (.files ((names.filter isKnown).map
            (wellFile request.folder "lgr_" ".dat"))) :=
      response_exportLgrForCompletions asked timeStep i j k known saved
    rw [given]
    refine ⟨rfl, ?_⟩
    by_cases none : (names.filter isKnown).isEmpty = true
    · -- Nothing was exported, so that no name is known.
      have unknown : ∀ name ∈ names, isKnown name = false := by
        simpa [List.filter_eq_nil_iff] using none
      simp only [if_pos none, Response.warning_tells_iff]
      constructor
      · exact fun told => .inr fun name member =>
          ⟨unknown name member, told name member (unknown name member)⟩
      · rintro (all | told) name member _
        · have contrary := all name member
          rw [unknown name member] at contrary
          cases contrary
        · exact (told name member).2
    · -- Something was exported, and the response says nothing.
      obtain ⟨found, inside, known⟩ : ∃ name ∈ names, isKnown name = true := by
        simpa [List.filter_eq_nil_iff] using none
      simp only [if_neg none]
      constructor
      · intro told
        refine .inl fun name member => ?_
        cases unknown : isKnown name with
        | true => rfl
        | false => exact absurd rfl (told name member unknown).1
      · rintro (all | told) name member unknown
        · rw [all name member] at unknown
          cases unknown
        · rw [(told found inside).1] at known
          cases known

/-- A request for a well that is there and for one that is not. -/
def ghostArguments : Arguments :=
  ⟨[⟨"wellPathNames", .array [.string "A", .string "ghost"], true⟩]⟩

def oneWell : Workspace where
  application := ((({} : Application).addCase ⟨"a"⟩).2.addWellPath "A").2

theorem texts_ghostArguments :
    ghostArguments.texts "wellPathNames" = ["A", "ghost"] := by
  decide +kernel

theorem exists_saveAll_oneWell :
    ∃ disk, oneWell.disk.saveAll (oneWell.exportFolder .lgrs)
      (wellFiles (oneWell.exportFolder .lgrs) "lgr_" ".dat"
        (lgrText (lgrRequest ghostArguments oneWell) 0)
        ((ghostArguments.texts "wellPathNames").filter
          oneWell.application.hasWellPath)) = .ok disk := by
  obtain ⟨disk, saved⟩ := Option.isSome_iff_exists.mp
    (by decide +kernel : (oneWell.disk.saveAll (oneWell.exportFolder .lgrs)
      (wellFiles (oneWell.exportFolder .lgrs) "lgr_" ".dat"
        (lgrText (lgrRequest ghostArguments oneWell) 0)
        ((ghostArguments.texts "wellPathNames").filter
          oneWell.application.hasWellPath))).toOption.isSome = true)
  exact ⟨disk, eq_ok_of_toOption saved⟩

/-- The one command tells the name, the other one does not. -/
theorem asked_wells_told_iff_ghost :
    let wells := ((exportWellPaths.run ghostArguments).run oneWell).1
    let lgrs := ((exportLgrForCompletions.run ghostArguments).run oneWell).1
    wells.result = some (.files [⟨"wellpaths/A.dev"⟩]) ∧
      wells.Tells "ghost" ∧
      lgrs.result = some (.files [⟨"lgrs/lgr_A.dat"⟩]) ∧
      ¬ ∀ name ∈ ["A", "ghost"],
        oneWell.application.hasWellPath name = false → lgrs.Tells name := by
  obtain ⟨disk, saved⟩ := Option.isSome_iff_exists.mp
    (by decide +kernel : (oneWell.disk.saveAll (oneWell.exportFolder .wellPaths)
      (wellFiles (oneWell.exportFolder .wellPaths) "" ".dev"
        (wellPathText (wellPathRequest ghostArguments oneWell))
        ((ghostArguments.texts "wellPathNames").filter
          oneWell.application.hasWellPath))).toOption.isSome = true)
  obtain ⟨other, otherSaved⟩ := exists_saveAll_oneWell
  have both := @asked_wells_told_iff ghostArguments oneWell
    (by rw [texts_ghostArguments]; simp)
  obtain ⟨wells, told⟩ := both.1 (by decide +kernel) (eq_ok_of_toOption saved)
  obtain ⟨lgrs, silent⟩ := @both.2 other ⟨0, ⟨"a"⟩, 0⟩ (by decide)
    (by decide +kernel) (by decide +kernel) (by decide +kernel)
    (by decide +kernel) otherSaved
  rw [texts_ghostArguments] at wells told lgrs silent
  refine ⟨wells.trans (by decide +kernel), ?_, lgrs.trans (by decide +kernel),
    ?_⟩
  · exact told "ghost" (by simp) (by decide +kernel)
  · rw [silent]
    decide +kernel

/-- An export of local refinements may drop a name in silence. -/
theorem not_forall_asked_wells_told :
    ¬ ∀ (arguments : Arguments) (before : Workspace) (disk : Disk)
        (refined : GridCase),
      let names := arguments.texts "wellPathNames"
      let isKnown := before.application.hasWellPath
      let request := lgrRequest arguments before
      names ≠ [] →
      0 ≤ arguments.intOr "timeStep" 0 →
      IsRefinement (arguments.intOr "refinementI" 1) →
      IsRefinement (arguments.intOr "refinementJ" 1) →
      IsRefinement (arguments.intOr "refinementK" 1) →
      before.application.case? (idArgument arguments "caseId") =
        some refined →
      before.disk.saveAll request.folder (wellFiles request.folder "lgr_" ".dat"
        (lgrText request refined.id) (names.filter isKnown)) = .ok disk →
      ∀ name ∈ names, isKnown name = false →
        ((exportLgrForCompletions.run arguments).run before).1.Tells name := by
  intro all
  obtain ⟨disk, saved⟩ := exists_saveAll_oneWell
  have told := all ghostArguments oneWell disk ⟨0, ⟨"a"⟩, 0⟩
    (by rw [texts_ghostArguments]; simp) (by decide) (by decide +kernel)
    (by decide +kernel) (by decide +kernel) (by decide +kernel) saved "ghost"
    (by rw [texts_ghostArguments]; simp) (by decide +kernel)
  have ok : ((exportLgrForCompletions.run ghostArguments).run
      oneWell).1.status = .ok := by decide +kernel
  exact told.1 ok

end Builtin

end GridScript
