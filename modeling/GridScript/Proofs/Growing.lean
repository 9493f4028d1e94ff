import GridScript.Proofs.SameDisk

/-!
# Disks that only grow

Making folders and writing files takes nothing away: a folder stays a folder,
and a file stays a file.  So a path that leads somewhere goes on leading there,
and a folder that was made once need not be made again.
-/

namespace GridScript

theorem fromUTF8?_toUTF8 (text : String) :
    String.fromUTF8? text.toUTF8 = some text := by
  unfold String.fromUTF8?
  split
  · rfl
  · rename_i invalid
    exact absurd text.isValidUTF8 invalid

namespace Disk

/-- What stands on the first disk also stands on the second one, folders as
folders and files as files. -/
structure Grows (before after : Disk) : Prop where
  workingFolder : after.workingFolder = before.workingFolder
  stands : ∀ location, (before.find? location).isSome = true →
    (after.find? location).isSome = true
  kind : ∀ location, (before.find? location).isSome = true →
    after.isFolderAt location = before.isFolderAt location

namespace Grows

theorem refl (disk : Disk) : disk.Grows disk :=
  ⟨rfl, fun _ => id, fun _ _ => rfl⟩

theorem trans {first second third : Disk} (left : first.Grows second)
    (right : second.Grows third) : first.Grows third := by
  refine ⟨right.workingFolder.trans left.workingFolder, ?_, ?_⟩
  · intro location there
    exact right.stands location (left.stands location there)
  · intro location there
    rw [right.kind location (left.stands location there),
      left.kind location there]

end Grows

theorem isFolderAt_iff {disk : Disk} {location : Location} :
    disk.isFolderAt location = true ↔ disk.find? location = some .folder := by
  unfold isFolderAt
  split
  · rename_i found
    simp [found]
  · rename_i other
    simpa using other

theorem Grows.isFolderAt {before after : Disk} (grows : before.Grows after)
    {location : Location} (folder : before.isFolderAt location = true) :
    after.isFolderAt location = true := by
  rw [grows.kind location (by simp [isFolderAt_iff.mp folder])]
  exact folder

/-- Where nothing stands, anything may be put. -/
theorem grows_put_of_none {disk : Disk} {location : Location}
    (free : disk.find? location = none) (entry : Entry) :
    disk.Grows (disk.put location entry) := by
  have elsewhere : ∀ other, (disk.find? other).isSome = true →
      (disk.put location entry).find? other = disk.find? other := by
    intro other there
    apply find?_put_of_ne
    rintro rfl
    simp [free] at there
  refine ⟨rfl, ?_, ?_⟩
  · intro other there
    rw [elsewhere other there]
    exact there
  · intro other there
    rw [Disk.isFolderAt, Disk.isFolderAt, elsewhere other there]

/-- Where no folder stands, a file may be put. -/
theorem grows_put_file {disk : Disk} {location : Location}
    (below : location ≠ []) (noFolder : disk.isFolderAt location = false)
    (content : ByteArray) : disk.Grows (disk.put location (.file content)) := by
  have here := find?_put_self disk below (.file content)
  refine ⟨rfl, ?_, ?_⟩
  · intro other there
    by_cases same : other = location
    · rw [same, here]
      rfl
    · rw [find?_put_of_ne disk same]
      exact there
  · intro other there
    by_cases same : other = location
    · rw [same, noFolder, Disk.isFolderAt, here]
    · rw [Disk.isFolderAt, Disk.isFolderAt, find?_put_of_ne disk same]

/-! ### Walking -/

theorem walk_append (disk : Disk) (front back : List String)
    (location : Location) :
    disk.walk location (front ++ back) =
      (disk.walk location front).bind
        fun reached => disk.walk reached back := by
  induction front generalizing location with
  | nil => rfl
  | cons part front induction =>
      simp only [List.cons_append, walk, induction]
      split
      · rfl
      · split
        · rfl
        · split
          · rfl
          · split
            · rfl
            · split <;> rfl

/-- One step into a part that is no dots. -/
theorem walk_name {disk : Disk} {location : Location} {name : String}
    (notDot : name ≠ ".") (notDots : name ≠ "..") :
    disk.walk location [name] =
      if !disk.isFolderAt location then .error .notAFolder
      else if longestName < name.utf8ByteSize then .error .nameTooLong
      else if (disk.find? (location ++ [name])).isNone then .error .notFound
      else .ok (location ++ [name]) := by
  simp [walk, notDot, notDots]

/-- A walk that ends with a name first goes where the steps before it lead. -/
theorem walk_concat_eq_ok_iff {disk : Disk} {start found : Location}
    {steps : List String} {name : String} (notDot : name ≠ ".")
    (notDots : name ≠ "..") :
    disk.walk start (steps ++ [name]) = .ok found ↔
      ∃ base, disk.walk start steps = .ok base ∧
        disk.isFolderAt base = true ∧ name.utf8ByteSize ≤ longestName ∧
        disk.find? (base ++ [name]) ≠ none ∧ found = base ++ [name] := by
  rw [walk_append]
  cases disk.walk start steps with
  | error reason => simp [Except.bind]
  | ok base =>
      change disk.walk base [name] = _ ↔ _
      rw [walk_name notDot notDots]
      constructor
      · intro walked
        split at walked
        · cases walked
        rename_i folder
        split at walked
        · cases walked
        rename_i short
        split at walked
        · cases walked
        rename_i there
        cases walked
        exact ⟨base, rfl, by simpa using folder, Nat.not_lt.mp short,
          by simpa using there, rfl⟩
      · rintro ⟨_, ⟨⟩, folder, short, there, rfl⟩
        simp [folder, there, Nat.not_lt.mpr short]

theorem Grows.walk {before after : Disk} (grows : before.Grows after)
    {parts : List String} {location found : Location}
    (walked : before.walk location parts = .ok found) :
    after.walk location parts = .ok found := by
  induction parts generalizing location with
  | nil => exact walked
  | cons part parts induction =>
      rw [Disk.walk] at walked ⊢
      split at walked
      · cases walked
      rename_i folder
      rw [Bool.not_eq_true, Bool.not_eq_false'] at folder
      rw [grows.isFolderAt folder]
      split at walked
      · rename_i dot
        simp only [dot, if_true]
        exact induction walked
      rename_i notDot
      split at walked
      · rename_i dots
        simp only [notDot, dots, if_true]
        exact induction walked
      rename_i notDots
      split at walked
      · cases walked
      rename_i short
      split at walked
      · cases walked
      rename_i there
      rw [Bool.not_eq_true, Option.isNone_eq_false_iff] at there
      have still := grows.stands _ there
      rw [← Option.isNone_eq_false_iff] at still
      simp only [notDot, notDots, short, still]
      exact induction walked

theorem Grows.startOf {before after : Disk} (grows : before.Grows after)
    (path : Path) : after.startOf path = before.startOf path := by
  rw [Disk.startOf, Disk.startOf, grows.workingFolder]

/-- What is there is reached by its steps, and a path that ends in a slash leads
to a folder. -/
theorem locate_eq_ok_iff {disk : Disk} {path : Path} {location : Location} :
    disk.locate path = .ok location ↔ checkName path = .ok () ∧
      disk.walk (disk.startOf path) (stepsOf path) = .ok location ∧
      (endsInSlash path = true → disk.isFolderAt location = true) := by
  unfold locate
  cases checkName path with
  | error reason => simp [bind, Except.bind]
  | ok =>
      cases disk.walk (disk.startOf path) (stepsOf path) with
      | error reason => simp [bind, Except.bind]
      | ok reached =>
          simp only [bind, Except.bind, pure, Except.pure, throw, throwThe,
            MonadExceptOf.throw, true_and]
          cases slash : endsInSlash path with
          | false => simp
          | true =>
              cases folder : disk.isFolderAt reached with
              | false =>
                  simp only [Bool.not_false, Bool.and_self, if_true]
                  constructor
                  · intro failed
                    cases failed
                  · rintro ⟨same, stands⟩
                    cases same
                    simp [folder] at stands
              | true =>
                  simp only [Bool.not_true, Bool.and_false]
                  constructor
                  · intro same
                    cases same
                    exact ⟨rfl, fun _ => folder⟩
                  · rintro ⟨same, _⟩
                    cases same
                    rfl

theorem Grows.locate {before after : Disk} (grows : before.Grows after)
    {path : Path} {location : Location}
    (there : before.locate path = .ok location) :
    after.locate path = .ok location := by
  rw [locate_eq_ok_iff] at there ⊢
  obtain ⟨named, walked, slash⟩ := there
  refine ⟨named, ?_, fun ends => grows.isFolderAt (slash ends)⟩
  rw [grows.startOf]
  exact grows.walk walked

theorem exists?_iff {disk : Disk} {path : Path} :
    disk.exists? path = true ↔ ∃ location, disk.locate path = .ok location := by
  unfold exists?
  cases disk.locate path with
  | ok location => simp [Except.isOk, Except.toBool]
  | error reason => simp [Except.isOk, Except.toBool]

theorem Grows.exists? {before after : Disk} (grows : before.Grows after)
    {path : Path} (there : before.exists? path = true) :
    after.exists? path = true := by
  obtain ⟨location, found⟩ := exists?_iff.mp there
  exact exists?_iff.mpr ⟨location, grows.locate found⟩

theorem isFolder_iff {disk : Disk} {path : Path} :
    disk.isFolder path = true ↔ ∃ location,
      disk.locate path = .ok location ∧ disk.isFolderAt location = true := by
  unfold isFolder
  cases disk.locate path with
  | ok location => simp
  | error reason => simp

theorem Grows.isFolder {before after : Disk} (grows : before.Grows after)
    {path : Path} (folder : before.isFolder path = true) :
    after.isFolder path = true := by
  obtain ⟨location, found, stands⟩ := isFolder_iff.mp folder
  exact isFolder_iff.mpr ⟨location, grows.locate found, grows.isFolderAt stands⟩

/-! ### New names -/

/-- A name is new in the folder that the steps before it lead to. -/
theorem locateNew_eq_ok_iff {disk : Disk} {path : Path} {base : Location}
    {name : String} :
    disk.locateNew path = .ok (base, some name) ↔ checkName path = .ok () ∧
      (∃ front, stepsOf path = front ++ [name] ∧
        disk.walk (disk.startOf path) front = .ok base) ∧
      disk.isFolderAt base = true ∧ name ≠ "." ∧ name ≠ ".." := by
  unfold locateNew
  cases checkName path with
  | error reason => simp [bind, Except.bind]
  | ok =>
      have turned : stepsOf path = (stepsOf path).reverse.reverse := by simp
      rw [turned]
      generalize (stepsOf path).reverse = steps
      cases steps with
      | nil => simp [bind, Except.bind, pure, Except.pure]
      | cons last front =>
          simp only [List.reverse_cons, List.reverse_append, List.reverse_nil,
            List.nil_append, List.reverse_reverse, List.singleton_append]
          have only : ∀ {other : List String}, front.reverse ++ [last] =
              other ++ [name] → front.reverse = other ∧ last = name := by
            intro other same
            simpa using same
          cases walked : disk.walk (disk.startOf path) front.reverse with
          | error reason =>
              simp only [bind, Except.bind]
              constructor
              · intro failed
                cases failed
              · rintro ⟨_, ⟨other, same, reached⟩, _⟩
                rw [← (only same).1, walked] at reached
                cases reached
          | ok reached =>
              simp only [bind, Except.bind, pure, Except.pure, throw, throwThe,
                MonadExceptOf.throw]
              constructor
              · intro found
                split at found
                · cases found
                rename_i folder
                rw [Bool.not_eq_true, Bool.not_eq_false'] at folder
                split at found
                · cases found
                rename_i named
                cases found
                simp only [Bool.or_eq_true, beq_iff_eq, not_or] at named
                exact ⟨trivial, ⟨_, rfl, walked⟩, folder, named⟩
              · rintro ⟨_, ⟨other, same, walkedOther⟩, folder, notDot, notDots⟩
                obtain ⟨rfl, rfl⟩ := only same
                rw [walked] at walkedOther
                cases walkedOther
                simp [folder, notDot, notDots]

theorem folderTarget_eq_ok_iff {disk : Disk} {path : Path}
    {location : Location} :
    disk.folderTarget path = .ok location ↔ ∃ base name,
      disk.locateNew path = .ok (base, some name) ∧
        name.utf8ByteSize ≤ longestName ∧
        disk.find? (base ++ [name]) = none ∧ location = base ++ [name] := by
  unfold folderTarget
  cases disk.locateNew path with
  | error reason => simp [bind, Except.bind]
  | ok found =>
      obtain ⟨base, name⟩ := found
      cases name with
      | none =>
          simp [bind, Except.bind, throw, throwThe, MonadExceptOf.throw]
      | some name =>
          simp only [bind, Except.bind, pure, Except.pure, throw, throwThe,
            MonadExceptOf.throw, Except.ok.injEq, Prod.mk.injEq,
            Option.some.injEq]
          constructor
          · intro target
            split at target
            · cases target
            split at target
            · cases target
            rename_i short free
            cases target
            simp only [Bool.not_eq_true, Option.isSome_eq_false_iff,
              Option.isNone_iff_eq_none] at free
            exact ⟨base, name, ⟨rfl, rfl⟩, Nat.not_lt.mp short, free, rfl⟩
          · rintro ⟨_, _, ⟨rfl, rfl⟩, short, free, rfl⟩
            rw [if_neg (Nat.not_lt.mpr short)]
            simp [free]

theorem fileTarget_eq_ok_iff {disk : Disk} {path : Path} {location : Location} :
    disk.fileTarget path = .ok location ↔ ∃ base name,
      disk.locateNew path = .ok (base, some name) ∧
        endsInSlash path = false ∧ name.utf8ByteSize ≤ longestName ∧
        disk.isFolderAt (base ++ [name]) = false ∧
        location = base ++ [name] := by
  unfold fileTarget
  cases disk.locateNew path with
  | error reason => simp [bind, Except.bind]
  | ok found =>
      obtain ⟨base, name⟩ := found
      cases name with
      | none =>
          simp [bind, Except.bind, throw, throwThe, MonadExceptOf.throw]
      | some name =>
          simp only [bind, Except.bind, pure, Except.pure, throw, throwThe,
            MonadExceptOf.throw, Except.ok.injEq, Prod.mk.injEq,
            Option.some.injEq]
          constructor
          · intro target
            split at target
            · cases target
            split at target
            · cases target
            split at target
            · cases target
            rename_i slash short file
            cases target
            rw [Bool.not_eq_true] at slash file
            exact ⟨base, name, ⟨rfl, rfl⟩, slash, Nat.not_lt.mp short, file,
              rfl⟩
          · rintro ⟨_, _, ⟨rfl, rfl⟩, slash, short, file, rfl⟩
            rw [if_neg (Nat.not_lt.mpr short)]
            simp [slash, file]

/-- What is put under a new name is reached by the path. -/
theorem walk_of_locateNew {before after : Disk} {path : Path} {base : Location}
    {name : String} (new : before.locateNew path = .ok (base, some name))
    (short : name.utf8ByteSize ≤ longestName) (grows : before.Grows after)
    {entry : Entry} (here : after.find? (base ++ [name]) = some entry) :
    after.walk (after.startOf path) (stepsOf path) = .ok (base ++ [name]) := by
  obtain ⟨_, ⟨front, steps, walked⟩, folder, notDot, notDots⟩ :=
    locateNew_eq_ok_iff.mp new
  rw [grows.startOf, steps, walk_concat_eq_ok_iff notDot notDots]
  exact ⟨base, grows.walk walked, grows.isFolderAt folder, short,
    by simp [here], rfl⟩

/-! ### Making folders -/

theorem grows_createFolder {disk made : Disk} {path : Path}
    (created : disk.createFolder path = .ok made) : disk.Grows made := by
  rw [createFolder_eq] at created
  cases target : disk.folderTarget path with
  | error reason =>
      rw [target] at created
      cases created
  | ok location =>
      rw [target] at created
      cases created
      obtain ⟨base, name, _, _, free, rfl⟩ := folderTarget_eq_ok_iff.mp target
      exact grows_put_of_none free .folder

/-- A folder that was made is there. -/
theorem isFolder_of_createFolder {disk made : Disk} {path : Path}
    (created : disk.createFolder path = .ok made) :
    made.isFolder path = true := by
  have grows := grows_createFolder created
  rw [createFolder_eq] at created
  cases target : disk.folderTarget path with
  | error reason =>
      rw [target] at created
      cases created
  | ok location =>
      rw [target] at created
      cases created
      obtain ⟨base, name, new, short, _, rfl⟩ :=
        folderTarget_eq_ok_iff.mp target
      have here := find?_put_self disk (List.append_ne_nil_of_right_ne_nil base
        (List.cons_ne_nil name [])) .folder
      have stands := isFolderAt_iff.mpr here
      refine isFolder_iff.mpr ⟨base ++ [name], ?_, stands⟩
      exact locate_eq_ok_iff.mpr ⟨(locateNew_eq_ok_iff.mp new).1,
        walk_of_locateNew new short grows here, fun _ => stands⟩

/-- A folder that is there is not made again. -/
theorem createFolder_of_isFolder {disk : Disk} {path : Path}
    (folder : disk.isFolder path = true) :
    disk.createFolder path = .error .alreadyExists := by
  obtain ⟨location, found, _⟩ := isFolder_iff.mp folder
  obtain ⟨named, walked, _⟩ := locate_eq_ok_iff.mp found
  rw [createFolder_eq]
  unfold folderTarget locateNew
  rw [named]
  have turned : stepsOf path = (stepsOf path).reverse.reverse := by simp
  rw [turned] at walked
  generalize (stepsOf path).reverse = steps at walked
  cases steps with
  | nil => rfl
  | cons last front =>
      rw [List.reverse_cons, walk_append] at walked
      simp only [bind, Except.bind, pure, Except.pure, throw, throwThe,
        MonadExceptOf.throw]
      cases reached : disk.walk (disk.startOf path) front.reverse with
      | error reason =>
          rw [reached] at walked
          cases walked
      | ok base =>
          rw [reached] at walked
          change disk.walk base [last] = _ at walked
          by_cases dots : last = "." ∨ last = ".."
          · have inside : disk.isFolderAt base = true := by
              cases outside : disk.isFolderAt base with
              | true => rfl
              | false => simp [walk, outside] at walked
            rcases dots with rfl | rfl <;> simp [inside, Except.map]
          · rw [not_or] at dots
            rw [walk_name dots.1 dots.2] at walked
            split at walked
            · cases walked
            rename_i inside
            split at walked
            · cases walked
            rename_i short
            split at walked
            · cases walked
            rename_i there
            simp only [Bool.not_eq_true, Option.isNone_eq_false_iff]
              at inside there
            simp [inside, dots.1, dots.2, short, there, Except.map]

/-- Whatever folders a chain makes, it makes them one after another. -/
theorem createChain_keeps {Keeps : Disk → Disk → Prop}
    (refl : ∀ disk, Keeps disk disk)
    (trans : ∀ {first second third}, Keeps first second → Keeps second third →
      Keeps first third)
    (makes : ∀ {disk made path}, disk.createFolder path = .ok made →
      Keeps disk made)
    (disk : Disk) (paths : List Path) :
    Keeps disk (disk.createChain paths).2 := by
  induction paths with
  | nil => exact refl disk
  | cons path above induction =>
      unfold createChain
      split
      · exact refl disk
      · split
        · rename_i made created
          exact makes created
        · generalize disk.createChain above = done at induction
          obtain ⟨outcome, reached⟩ := done
          cases outcome with
          | error reason => exact induction
          | ok =>
              dsimp only
              split
              · rename_i made created
                exact trans induction (makes created)
              · split <;> exact induction
        · split <;> exact refl disk

theorem grows_createChain (disk : Disk) (paths : List Path) :
    disk.Grows (disk.createChain paths).2 :=
  createChain_keeps .refl .trans grows_createFolder disk paths

theorem grows_createFolders (disk : Disk) (path : Path) :
    disk.Grows (disk.createFolders path).2 :=
  grows_createChain disk _

/-- There is no need to make the folder: it is there, or its path is empty. -/
def HasFolder (disk : Disk) (path : Path) : Prop :=
  path.text.isEmpty = true ∨ disk.isFolder path = true

theorem Grows.hasFolder {before after : Disk} (grows : before.Grows after)
    {path : Path} (there : before.HasFolder path) : after.HasFolder path :=
  there.imp_right grows.isFolder

theorem createFolders_of_hasFolder {disk : Disk} {path : Path}
    (there : disk.HasFolder path) :
    disk.createFolders path = (.ok (), disk) := by
  rw [createFolders, Path.ancestors, createChain]
  split
  · rfl
  · rename_i written
    have folder := there.resolve_left written
    rw [createFolder_of_isFolder folder, folder]
    rfl

theorem hasFolder_of_createFolders {disk after : Disk} {path : Path}
    (made : disk.createFolders path = (.ok (), after)) :
    after.HasFolder path := by
  rw [createFolders, Path.ancestors, createChain] at made
  split at made
  · rename_i empty
    exact .inl empty
  · refine .inr ?_
    split at made
    · rename_i created
      cases made
      exact isFolder_of_createFolder created
    · split at made
      · cases made
      · split at made
        · rename_i created
          cases made
          exact isFolder_of_createFolder created
        · split at made
          · rename_i folder
            cases made
            exact folder
          · cases made
    · split at made
      · rename_i folder
        cases made
        exact folder
      · cases made

end Disk

end GridScript
