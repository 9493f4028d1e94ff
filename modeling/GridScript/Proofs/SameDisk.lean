import GridScript.Disk.Basic

/-!
# Disks with the same files

Two disks are the same to every operation if they have the same working folder
and the same entry at every location; the order of their entries does not
matter.
-/

namespace GridScript

namespace Disk

/-- The same entry stands at every location, and paths start at the same
folder. -/
structure Same (left right : Disk) : Prop where
  workingFolder : left.workingFolder = right.workingFolder
  find? : ∀ location, left.find? location = right.find? location

theorem Same.refl (disk : Disk) : disk.Same disk :=
  ⟨rfl, fun _ => rfl⟩

theorem Same.symm {left right : Disk} (same : left.Same right) :
    right.Same left :=
  ⟨same.workingFolder.symm, fun location => (same.find? location).symm⟩

theorem Same.trans {first second third : Disk} (left : first.Same second)
    (right : second.Same third) : first.Same third :=
  ⟨left.workingFolder.trans right.workingFolder,
    fun location => (left.find? location).trans (right.find? location)⟩

/-! ### Entries -/

theorem find?_put_self (disk : Disk) {location : Location}
    (below : location ≠ []) (entry : Entry) :
    (disk.put location entry).find? location = some entry := by
  have absent : (disk.entries.filter (·.1 != location)).find?
      (·.1 == location) = none := by
    rw [List.find?_eq_none]
    intro stored member
    simpa using (List.mem_filter.mp member).2
  rw [find?, put, List.find?_append, absent]
  simp [below]

theorem find?_put_of_ne (disk : Disk) {location other : Location}
    (apart : other ≠ location) (entry : Entry) :
    (disk.put location entry).find? other = disk.find? other := by
  have kept : (disk.entries.filter (·.1 != location)).find? (·.1 == other) =
      disk.entries.find? (·.1 == other) := by
    rw [List.find?_filter]
    congr 1
    funext stored
    by_cases here : stored.1 = other
    · simp [here, apart]
    · simp [here]
  have notHere : (location == other) = false :=
    beq_eq_false_iff_ne.mpr (Ne.symm apart)
  simp [find?, put, List.find?_append, kept, notHere]

/-- The disks differ in no more than what stands at one location. -/
structure SameOff (location : Location) (left right : Disk) : Prop where
  workingFolder : left.workingFolder = right.workingFolder
  find? : ∀ other ≠ location, left.find? other = right.find? other

theorem SameOff.refl (location : Location) (disk : Disk) :
    disk.SameOff location disk :=
  ⟨rfl, fun _ _ => rfl⟩

theorem SameOff.symm {location : Location} {left right : Disk}
    (same : left.SameOff location right) : right.SameOff location left :=
  ⟨same.workingFolder.symm, fun other apart => (same.find? other apart).symm⟩

theorem SameOff.trans {location : Location} {first second third : Disk}
    (left : first.SameOff location second)
    (right : second.SameOff location third) : first.SameOff location third :=
  ⟨left.workingFolder.trans right.workingFolder, fun other apart =>
    (left.find? other apart).trans (right.find? other apart)⟩

theorem sameOff_put (disk : Disk) (location : Location) (entry : Entry) :
    (disk.put location entry).SameOff location disk :=
  ⟨rfl, fun _ apart => find?_put_of_ne disk apart entry⟩

/-- With the same entry there, the disks are the same. -/
theorem SameOff.put {location : Location} {left right : Disk}
    (same : left.SameOff location right) (entry : Entry) :
    (left.put location entry).Same (right.put location entry) := by
  refine ⟨same.workingFolder, fun other => ?_⟩
  by_cases here : other = location
  · by_cases root : location = []
    · rw [here, root]
      rfl
    · rw [here, find?_put_self left root, find?_put_self right root]
  · rw [find?_put_of_ne left here, find?_put_of_ne right here,
      same.find? other here]

theorem Same.sameOff {left right : Disk} (same : left.Same right)
    (location : Location) : left.SameOff location right :=
  ⟨same.workingFolder, fun other _ => same.find? other⟩

theorem Same.put {left right : Disk} (same : left.Same right)
    (location : Location) (entry : Entry) :
    (left.put location entry).Same (right.put location entry) :=
  (same.sameOff location).put entry

/-- An entry that stands there already changes nothing. -/
theorem same_put_of_find? {disk : Disk} {location : Location} {entry : Entry}
    (below : location ≠ []) (stands : disk.find? location = some entry) :
    (disk.put location entry).Same disk := by
  refine ⟨rfl, fun other => ?_⟩
  by_cases here : other = location
  · rw [here, find?_put_self disk below, stands]
  · exact find?_put_of_ne disk here entry

/-! ### Looking -/

theorem Same.isFolderAt {left right : Disk} (same : left.Same right)
    (location : Location) :
    left.isFolderAt location = right.isFolderAt location := by
  rw [Disk.isFolderAt, Disk.isFolderAt, same.find?]

theorem Same.walk {left right : Disk} (same : left.Same right)
    (parts : List String) (location : Location) :
    left.walk location parts = right.walk location parts := by
  induction parts generalizing location with
  | nil => rfl
  | cons part parts induction =>
      simp only [Disk.walk, same.isFolderAt, same.find?, induction]

theorem Same.startOf {left right : Disk} (same : left.Same right)
    (path : Path) : left.startOf path = right.startOf path := by
  rw [Disk.startOf, Disk.startOf, same.workingFolder]

theorem Same.locate {left right : Disk} (same : left.Same right)
    (path : Path) : left.locate path = right.locate path := by
  simp only [Disk.locate, same.startOf, same.walk, same.isFolderAt]

theorem Same.locateNew {left right : Disk} (same : left.Same right)
    (path : Path) : left.locateNew path = right.locateNew path := by
  simp only [Disk.locateNew, same.startOf, same.walk, same.isFolderAt]

theorem Same.exists? {left right : Disk} (same : left.Same right)
    (path : Path) : left.exists? path = right.exists? path := by
  rw [Disk.exists?, Disk.exists?, same.locate]

theorem Same.isFolder {left right : Disk} (same : left.Same right)
    (path : Path) : left.isFolder path = right.isFolder path := by
  simp only [Disk.isFolder, same.locate, same.isFolderAt]

theorem Same.read {left right : Disk} (same : left.Same right) (path : Path) :
    left.read path = right.read path := by
  simp only [Disk.read, same.locate, same.find?]

/-! ### Writing -/

/-- Where a file with this path is written. -/
def fileTarget (disk : Disk) (path : Path) : Except DiskError Location := do
  let (folder, name) ← disk.locateNew path
  match name with
  | none => throw .isAFolder
  | some name =>
    if endsInSlash path then throw .isAFolder
    if longestName < name.utf8ByteSize then throw .nameTooLong
    if disk.isFolderAt (folder ++ [name]) then throw .isAFolder
    return folder ++ [name]

/-- Where a new folder with this path is made. -/
def folderTarget (disk : Disk) (path : Path) : Except DiskError Location := do
  let (folder, name) ← disk.locateNew path
  match name with
  | none => throw .alreadyExists
  | some name =>
    if longestName < name.utf8ByteSize then throw .nameTooLong
    if (disk.find? (folder ++ [name])).isSome then throw .alreadyExists
    return folder ++ [name]

theorem ne_nil_of_fileTarget {disk : Disk} {path : Path} {location : Location}
    (target : disk.fileTarget path = .ok location) : location ≠ [] := by
  unfold fileTarget at target
  cases new : disk.locateNew path with
  | error reason =>
      rw [new] at target
      cases target
  | ok found =>
      rw [new] at target
      obtain ⟨folder, name⟩ := found
      cases name with
      | none => cases target
      | some name =>
          simp only [bind, Except.bind, pure, Except.pure, throw, throwThe,
            MonadExceptOf.throw] at target
          split at target
          · cases target
          · split at target
            · cases target
            · split at target
              · cases target
              · cases target
                simp

theorem create_eq (disk : Disk) (path : Path) :
    disk.create path = (disk.fileTarget path).map fun location =>
      (location, disk.put location (.file ByteArray.empty)) := by
  unfold create fileTarget
  cases disk.locateNew path with
  | error reason => rfl
  | ok found =>
      obtain ⟨folder, name⟩ := found
      cases name with
      | none => rfl
      | some name =>
          simp only [bind, Except.bind, pure, Except.pure, throw, throwThe,
            MonadExceptOf.throw]
          split
          · rfl
          · split
            · rfl
            · split <;> rfl

theorem write_eq (disk : Disk) (path : Path) (text : String) :
    disk.write path text = (disk.fileTarget path).map fun location =>
      (disk.put location (.file ByteArray.empty)).put location
        (.file text.toUTF8) := by
  unfold write
  rw [create_eq]
  cases disk.fileTarget path <;> rfl

theorem createFolder_eq (disk : Disk) (path : Path) :
    disk.createFolder path = (disk.folderTarget path).map fun location =>
      disk.put location .folder := by
  unfold createFolder folderTarget
  cases disk.locateNew path with
  | error reason => rfl
  | ok found =>
      obtain ⟨folder, name⟩ := found
      cases name with
      | none => rfl
      | some name =>
          simp only [bind, Except.bind, pure, Except.pure, throw, throwThe,
            MonadExceptOf.throw]
          split
          · rfl
          · split <;> rfl

theorem Same.fileTarget {left right : Disk} (same : left.Same right)
    (path : Path) : left.fileTarget path = right.fileTarget path := by
  simp only [Disk.fileTarget, same.locateNew, same.isFolderAt]

theorem Same.folderTarget {left right : Disk} (same : left.Same right)
    (path : Path) : left.folderTarget path = right.folderTarget path := by
  simp only [Disk.folderTarget, same.locateNew, same.find?]

/-- What two attempts left behind: the same outcome and the same files. -/
def SameOutcome (left right : Except DiskError Unit × Disk) : Prop :=
  left.1 = right.1 ∧ left.2.Same right.2

theorem Same.createChain {left right : Disk} (same : left.Same right)
    (paths : List Path) :
    SameOutcome (left.createChain paths) (right.createChain paths) := by
  induction paths with
  | nil => exact ⟨rfl, same⟩
  | cons path above induction =>
      simp only [Disk.createChain, createFolder_eq, same.folderTarget,
        same.isFolder]
      split
      · exact ⟨rfl, same⟩
      · cases right.folderTarget path with
        | ok location => exact ⟨rfl, same.put location .folder⟩
        | error reason =>
            cases reason with
            | notFound =>
                obtain ⟨outcome, reached⟩ := induction
                generalize left.createChain above = leftAbove at *
                generalize right.createChain above = rightAbove at *
                obtain ⟨leftOutcome, leftDisk⟩ := leftAbove
                obtain ⟨rightOutcome, rightDisk⟩ := rightAbove
                dsimp only at outcome reached
                subst outcome
                cases leftOutcome with
                | error reason => exact ⟨rfl, reached⟩
                | ok =>
                    simp only [Except.map, reached.folderTarget,
                      reached.isFolder]
                    cases rightDisk.folderTarget path with
                    | ok location => exact ⟨rfl, reached.put location .folder⟩
                    | error reason =>
                        dsimp only
                        split <;> exact ⟨rfl, reached⟩
            | _ =>
                simp only [Except.map]
                split <;> exact ⟨rfl, same⟩

theorem Same.createFolders {left right : Disk} (same : left.Same right)
    (path : Path) :
    SameOutcome (left.createFolders path) (right.createFolders path) :=
  same.createChain _

end Disk

end GridScript
