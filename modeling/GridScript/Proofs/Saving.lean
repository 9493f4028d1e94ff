import GridScript.Proofs.Growing
import GridScript.Proofs.Snapshots

/-!
# Saving files into a folder

Files are saved one after the other into one folder, each under a name of its
own.  Once the first one is saved, the folder is there, and a file that is saved
changes no other one.  So at the end each file holds what was saved under its
name last, and files that could be saved after others can also be saved without
them.
-/

namespace GridScript

theorem exists_of_bind_eq_ok {ε α β : Type} {first : Except ε α}
    {next : α → Except ε β} {result : β}
    (given : (first >>= next) = .ok result) :
    ∃ value, first = .ok value ∧ next value = .ok result := by
  cases first with
  | error cause => cases given
  | ok value => exact ⟨value, rfl, given⟩

theorem eq_ok_of_toOption {ε α : Type} {answer : Except ε α} {value : α}
    (given : answer.toOption = some value) : answer = .ok value := by
  cases answer with
  | ok other => exact congrArg Except.ok (Option.some.inj given)
  | error cause => cases given

/-! ### Names in a folder -/

/-- A name without slashes that is too long to be dots. -/
structure IsPlain (name : String) : Prop where
  flat : '/' ∉ name.toList
  long : 2 < name.toList.length

theorem IsPlain.append {front back : String} (flat : '/' ∉ front.toList)
    (plain : IsPlain back) : IsPlain (front ++ back) := by
  constructor
  · rw [String.toList_append, List.mem_append, not_or]
    exact ⟨flat, plain.flat⟩
  · have long := plain.long
    rw [String.toList_append, List.length_append]
    omega

namespace Path

/-- What the paths of plain names in one folder have in common. -/
structure Outline where
  isAbsolute : Bool
  /-- The steps before the last one. -/
  steps : List String
  /-- What the last step begins with. -/
  stem : List Char
  folder? : Option Path

/-- The last step to a name. -/
def Outline.lastStep (outline : Outline) (name : String) : String :=
  String.ofList (outline.stem ++ name.toList)

structure Outline.Fits (outline : Outline) (folder : Path) : Prop where
  isAbsolute : ∀ {name}, IsPlain name →
    (folder.child name).isAbsolute = outline.isAbsolute
  stepsOf : ∀ {name}, IsPlain name →
    Disk.stepsOf (folder.child name) = outline.steps ++ [outline.lastStep name]
  endsInSlash : ∀ {name}, IsPlain name →
    Disk.endsInSlash (folder.child name) = false
  folder? : ∀ {name}, IsPlain name →
    (folder.child name).folder? = outline.folder?

/-- The first two characters decide the anchor of a longer path. -/
theorem anchor_of_cons_cons {p : Path} {first second : Char} {rest : List Char}
    (text : p.text.toList = first :: second :: rest) :
    p.anchor = if first = '/' then ['/']
      else if first = '.' ∧ second = '/' then ['.'] else [] := by
  unfold anchor
  rw [text]
  split <;> simp_all

/-- A plain name behind other characters does not change the anchor. -/
theorem exists_anchor (front : List Char) :
    ∃ anchor : List Char, anchor.length ≤ front.length ∧
      ∀ {p : Path} {name : String}, IsPlain name →
        p.text.toList = front ++ name.toList → p.anchor = anchor := by
  have split : ∀ {name : String}, IsPlain name →
      ∃ c d rest, name.toList = c :: d :: rest ∧ c ≠ '/' ∧ d ≠ '/' := by
    intro name plain
    obtain ⟨flat, long⟩ := plain
    match same : name.toList with
    | [] | [_] => simp [same] at long
    | c :: d :: rest =>
        rw [same, List.mem_cons, List.mem_cons, not_or, not_or] at flat
        exact ⟨c, d, rest, rfl, Ne.symm flat.1, Ne.symm flat.2.1⟩
  match front with
  | [] =>
      refine ⟨[], Nat.le_refl 0, ?_⟩
      intro p name plain text
      obtain ⟨c, d, rest, same, first, second⟩ := split plain
      rw [same] at text
      rw [anchor_of_cons_cons text, if_neg first, if_neg (second ·.2)]
  | [only] =>
      refine ⟨if only = '/' then ['/'] else [], by split <;> simp, ?_⟩
      intro p name plain text
      obtain ⟨c, d, rest, same, first, _⟩ := split plain
      rw [same] at text
      rw [anchor_of_cons_cons text]
      simp [first]
  | one :: two :: more =>
      refine ⟨if one = '/' then ['/']
        else if one = '.' ∧ two = '/' then ['.'] else [], ?_, ?_⟩
      · split
        · simp
        · split <;> simp
      · intro p name plain text
        exact anchor_of_cons_cons text

theorem parent?_of_append {p : Path} {name : String} {parts : List (List Char)}
    {last : List Char} (plain : IsPlain name)
    (split : splitSlash (p.text.toList.drop p.anchor.length) =
      parts ++ [last ++ name.toList]) :
    p.parent? = some (ofReversedParts p.anchor parts.reverse) := by
  have long := plain.long
  have busy : isIdlePart (last ++ name.toList) = false := by
    simp only [isIdlePart, Bool.or_eq_false_iff, List.isEmpty_eq_false_iff,
      beq_eq_false_iff_ne]
    constructor
    · intro empty
      simp_all
    · intro dot
      have length := congrArg List.length dot
      rw [List.length_append, List.length_singleton] at length
      omega
  have kept : p.reversedParts = (last ++ name.toList) :: parts.reverse := by
    rw [reversedParts, split, List.reverse_append, List.reverse_singleton,
      List.singleton_append, List.dropWhile_cons_of_neg (by simp [busy])]
  rw [parent?, kept]

theorem exists_outline (folder : Path) :
    ∃ outline : Outline, outline.Fits folder := by
  obtain ⟨front, texts⟩ := exists_text_child folder ""
  have text : ∀ {name : String}, IsPlain name →
      (folder.child name).text.toList = front ++ name.toList := by
    intro name plain
    rw [← texts name plain.flat, String.empty_append]
  obtain ⟨parts, stem, split⟩ := exists_splitSlash_append front
  obtain ⟨anchor, short, anchored⟩ := exists_anchor front
  obtain ⟨inner, last, dropped⟩ :=
    exists_splitSlash_append (front.drop anchor.length)
  refine ⟨⟨front.head? == some '/',
    (parts.filter (!·.isEmpty)).map String.ofList, stem,
    (some (ofReversedParts anchor inner.reverse)).filter (!·.text.isEmpty)⟩,
    ?_, ?_, ?_, ?_⟩
  · intro name plain
    rw [Path.isAbsolute, text plain]
    cases front with
    | cons c front => rfl
    | nil =>
        cases same : name.toList with
        | nil => rfl
        | cons c rest =>
            have other : c ≠ '/' :=
              fun slash => plain.flat (by simp [same, slash])
            simp [other]
  · intro name plain
    have notEmpty : stem ++ name.toList ≠ [] := by
      have long := plain.long
      intro empty
      simp_all
    rw [Disk.stepsOf, text plain, split _ plain.flat, List.filter_append,
      List.map_append]
    simp [Outline.lastStep, notEmpty]
  · intro name plain
    have long := plain.long
    rw [Disk.endsInSlash, text plain, List.getLast?_append]
    cases ends : name.toList.getLast? with
    | none => simp_all
    | some c =>
        have member := List.mem_of_getLast? ends
        have other : c ≠ '/' := fun slash => plain.flat (slash ▸ member)
        simp [other]
  · intro name plain
    have anchor := anchored plain (text plain)
    rw [Path.folder?, parent?_of_append plain, anchor]
    rw [anchor, text plain, List.drop_append_of_le_length short,
      dropped _ plain.flat]

theorem Outline.lastStep_injective (outline : Outline) :
    Function.Injective outline.lastStep := by
  intro left right same
  exact String.toList_injective
    (List.append_cancel_left (String.ofList_injective same))

theorem Outline.lastStep_ne (outline : Outline) {name dots : String}
    (plain : IsPlain name) (short : dots.toList.length ≤ 2) :
    outline.lastStep name ≠ dots := by
  intro same
  have long := plain.long
  have length := congrArg (fun text => text.toList.length) same
  simp only [lastStep, String.toList_ofList, List.length_append] at length
  omega

end Path

namespace Disk

/-! ### Saving -/

/-- Makes a folder and those that hold it. -/
def makeFolder (disk : Disk) (path : Path) : Except DiskError Disk :=
  match disk.createFolders path with
  | (.ok (), made) => .ok made
  | (.error reason, _) => .error reason

/-- Makes the folder, and the one that holds the file, and writes the file. -/
def save (disk : Disk) (folder path : Path) (text : String) :
    Except DiskError Disk := do
  let made ← (folder :: path.folder?.toList).foldlM makeFolder disk
  made.write path text

/-- Saves files in order. -/
def saveAll (disk : Disk) (folder : Path) (files : List (Path × String)) :
    Except DiskError Disk :=
  files.foldlM (fun reached file => reached.save folder file.1 file.2) disk

theorem saveAll_cons (disk : Disk) (folder : Path) (file : Path × String)
    (files : List (Path × String)) :
    disk.saveAll folder (file :: files) =
      (disk.save folder file.1 file.2 >>= fun saved =>
        saved.saveAll folder files) :=
  rfl

theorem saveAll_append (disk : Disk) (folder : Path)
    (front back : List (Path × String)) :
    disk.saveAll folder (front ++ back) =
      (disk.saveAll folder front >>= fun saved => saved.saveAll folder back) :=
  List.foldlM_append

/-! ### Folders that are ready -/

theorem makeFolder_of_hasFolder {disk : Disk} {path : Path}
    (there : disk.HasFolder path) : disk.makeFolder path = .ok disk := by
  rw [makeFolder, createFolders_of_hasFolder there]

theorem grows_makeFolder {disk made : Disk} {path : Path}
    (done : disk.makeFolder path = .ok made) :
    disk.Grows made ∧ made.HasFolder path := by
  have grows := grows_createFolders disk path
  unfold makeFolder at done
  split at done
  · rename_i created
    cases done
    rw [created] at grows
    exact ⟨grows, hasFolder_of_createFolders created⟩
  · cases done

theorem foldlM_makeFolder_of_hasFolder {disk : Disk} {paths : List Path}
    (there : ∀ path ∈ paths, disk.HasFolder path) :
    paths.foldlM makeFolder disk = .ok disk := by
  induction paths with
  | nil => rfl
  | cons path paths induction =>
      rw [List.foldlM_cons, makeFolder_of_hasFolder (there path (by simp))]
      exact induction fun other member =>
        there other (List.mem_cons_of_mem path member)

theorem grows_foldlM_makeFolder {disk made : Disk} {paths : List Path}
    (done : paths.foldlM makeFolder disk = .ok made) :
    disk.Grows made ∧ ∀ path ∈ paths, made.HasFolder path := by
  induction paths generalizing disk with
  | nil =>
      cases done
      exact ⟨.refl _, nofun⟩
  | cons path paths induction =>
      rw [List.foldlM_cons] at done
      obtain ⟨middle, first, rest⟩ := exists_of_bind_eq_ok done
      obtain ⟨started, there⟩ := grows_makeFolder first
      obtain ⟨grows, others⟩ := induction rest
      refine ⟨started.trans grows, ?_⟩
      rintro other (_ | ⟨_, member⟩)
      · exact grows.hasFolder there
      · exact others other member

/-- The folder is there, and files in it stand below `base`. -/
structure Ready (disk : Disk) (folder : Path) (outline : Path.Outline)
    (base : Location) : Prop where
  made : ∀ path ∈ folder :: outline.folder?.toList, disk.HasFolder path
  walked : disk.walk (if outline.isAbsolute then [] else disk.workingFolder)
    outline.steps = .ok base
  isFolder : disk.isFolderAt base = true

theorem Grows.ready {before after : Disk} {folder : Path}
    {outline : Path.Outline} {base : Location} (grows : before.Grows after)
    (ready : before.Ready folder outline base) :
    after.Ready folder outline base := by
  refine ⟨fun path member => grows.hasFolder (ready.made path member), ?_,
    grows.isFolderAt ready.isFolder⟩
  rw [grows.workingFolder]
  exact grows.walk ready.walked

section

variable {folder : Path} {outline : Path.Outline} {disk : Disk}
  {base : Location} {name : String}

theorem Ready.startOf (ready : disk.Ready folder outline base)
    (fits : outline.Fits folder) (plain : IsPlain name) :
    disk.walk (disk.startOf (folder.child name)) outline.steps = .ok base := by
  rw [Disk.startOf, fits.isAbsolute plain]
  exact ready.walked

/-- Where the folder is ready, a file can be written unless its path or its name
is unfit or a folder is in its place. -/
theorem Ready.fileTarget_iff (ready : disk.Ready folder outline base)
    (fits : outline.Fits folder) (plain : IsPlain name) {location : Location} :
    disk.fileTarget (folder.child name) = .ok location ↔
      checkName (folder.child name) = .ok () ∧
        (outline.lastStep name).utf8ByteSize ≤ longestName ∧
        disk.isFolderAt (base ++ [outline.lastStep name]) = false ∧
        location = base ++ [outline.lastStep name] := by
  have steps := fits.stepsOf plain
  rw [fileTarget_eq_ok_iff]
  constructor
  · rintro ⟨reached, last, new, _, short, free, rfl⟩
    obtain ⟨named, ⟨front, same, walked⟩, _⟩ := locateNew_eq_ok_iff.mp new
    rw [steps] at same
    obtain ⟨rfl, equal⟩ := List.append_inj' same rfl
    cases equal
    rw [ready.startOf fits plain] at walked
    cases walked
    exact ⟨named, short, free, rfl⟩
  · rintro ⟨named, short, free, rfl⟩
    refine ⟨base, outline.lastStep name, ?_, fits.endsInSlash plain, short,
      free, rfl⟩
    rw [locateNew_eq_ok_iff]
    exact ⟨named, ⟨outline.steps, steps, ready.startOf fits plain⟩,
      ready.isFolder, outline.lastStep_ne plain (by decide),
      outline.lastStep_ne plain (by decide)⟩

theorem Ready.save_eq (ready : disk.Ready folder outline base)
    (fits : outline.Fits folder) (plain : IsPlain name) (text : String) :
    disk.save folder (folder.child name) text =
      disk.write (folder.child name) text := by
  rw [save, fits.folder? plain, foldlM_makeFolder_of_hasFolder ready.made]
  rfl

/-- What a file that was saved leaves behind. -/
structure Saved (before after : Disk) (location : Location) (text : String) :
    Prop where
  grows : before.Grows after
  here : after.find? location = some (.file text.toUTF8)
  elsewhere : ∀ other ≠ location, after.find? other = before.find? other

theorem saved_of_fileTarget {path : Path} {location : Location}
    (target : disk.fileTarget path = .ok location) (text : String) :
    ∃ after, disk.write path text = .ok after ∧
      disk.Saved after location text := by
  have below := ne_nil_of_fileTarget target
  obtain ⟨_, _, _, _, _, noFolder, rfl⟩ := fileTarget_eq_ok_iff.mp target
  rw [write_eq, target]
  refine ⟨_, rfl, ?_, find?_put_self _ below _, ?_⟩
  · apply (grows_put_file below noFolder ByteArray.empty).trans
    apply grows_put_file below
    rw [Disk.isFolderAt, find?_put_self disk below]
  · intro other apart
    rw [find?_put_of_ne _ apart, find?_put_of_ne _ apart]

theorem exists_saved_of_write {path : Path} {text : String} {after : Disk}
    (written : disk.write path text = .ok after) :
    ∃ location, disk.fileTarget path = .ok location ∧
      disk.Saved after location text := by
  cases target : disk.fileTarget path with
  | error reason =>
      rw [write_eq, target] at written
      cases written
  | ok location =>
      obtain ⟨_, same, saved⟩ := saved_of_fileTarget target text
      rw [same] at written
      cases written
      exact ⟨location, rfl, saved⟩

/-- The path leads to what was saved. -/
theorem Saved.locate {path : Path} {location : Location} {text : String}
    {after : Disk} (saved : disk.Saved after location text)
    (target : disk.fileTarget path = .ok location) :
    after.locate path = .ok location := by
  obtain ⟨base, name, new, flat, short, _, rfl⟩ :=
    fileTarget_eq_ok_iff.mp target
  exact locate_eq_ok_iff.mpr ⟨(locateNew_eq_ok_iff.mp new).1,
    walk_of_locateNew new short saved.grows saved.here, by simp [flat]⟩

/-- A file that was saved into a folder that is ready. -/
theorem Ready.saved (ready : disk.Ready folder outline base)
    (fits : outline.Fits folder) (plain : IsPlain name) {text : String}
    {after : Disk}
    (done : disk.save folder (folder.child name) text = .ok after) :
    disk.fileTarget (folder.child name) =
        .ok (base ++ [outline.lastStep name]) ∧
      disk.Saved after (base ++ [outline.lastStep name]) text := by
  rw [ready.save_eq fits plain] at done
  obtain ⟨location, target, saved⟩ := exists_saved_of_write done
  obtain ⟨_, _, _, rfl⟩ := (ready.fileTarget_iff fits plain).mp target
  exact ⟨target, saved⟩

/-- The first file that is saved makes the folder ready; from then on it is as
if the folder had been there. -/
theorem exists_ready_of_save (fits : outline.Fits folder) (plain : IsPlain name)
    {text : String} {after : Disk}
    (done : disk.save folder (folder.child name) text = .ok after) :
    ∃ made base, made.Ready folder outline base ∧ disk.Grows made ∧
      ∀ {other : String}, IsPlain other → ∀ text,
        disk.save folder (folder.child other) text =
          made.save folder (folder.child other) text := by
  rw [save, fits.folder? plain] at done
  obtain ⟨made, making, written⟩ := exists_of_bind_eq_ok done
  obtain ⟨grows, there⟩ := grows_foldlM_makeFolder making
  cases target : made.fileTarget (folder.child name) with
  | error reason =>
      rw [write_eq, target] at written
      cases written
  | ok location =>
      obtain ⟨base, last, new, _⟩ := fileTarget_eq_ok_iff.mp target
      obtain ⟨_, ⟨front, same, walked⟩, isFolder, _⟩ :=
        locateNew_eq_ok_iff.mp new
      rw [fits.stepsOf plain] at same
      obtain ⟨rfl, _⟩ := List.append_inj' same rfl
      rw [Disk.startOf, fits.isAbsolute plain] at walked
      refine ⟨made, base, ⟨there, walked, isFolder⟩, grows, ?_⟩
      intro other otherPlain otherText
      rw [save, save, fits.folder? otherPlain, making,
        foldlM_makeFolder_of_hasFolder there]

/-! ### Reading what was saved -/

theorem read_eq_ok_iff {path : Path} {text : String} :
    disk.read path = .ok text ↔ ∃ location content,
      disk.locate path = .ok location ∧
        disk.find? location = some (.file content) ∧
        String.fromUTF8? content = some text := by
  unfold read
  cases disk.locate path with
  | error reason => simp [bind, Except.bind]
  | ok location =>
      simp only [bind, Except.bind]
      split
      · rename_i content stands
        split
        · rename_i decoded same
          simp [stands, same, pure, Except.pure]
        · rename_i same
          simp [stands, same, throw, throwThe, MonadExceptOf.throw]
      · rename_i other
        constructor
        · intro failed
          cases failed
        · rintro ⟨_, content, same, stands, _⟩
          cases same
          exact absurd stands (other content)

theorem Ready.locate_eq (ready : disk.Ready folder outline base)
    (fits : outline.Fits folder) (plain : IsPlain name) {location : Location}
    (there : disk.locate (folder.child name) = .ok location) :
    location = base ++ [outline.lastStep name] := by
  obtain ⟨_, walked, _⟩ := locate_eq_ok_iff.mp there
  rw [fits.stepsOf plain,
    walk_concat_eq_ok_iff (outline.lastStep_ne plain (by decide))
      (outline.lastStep_ne plain (by decide)),
    ready.startOf fits plain] at walked
  obtain ⟨_, ⟨⟩, _, _, _, same⟩ := walked
  exact same

/-- A file that was saved holds its text. -/
theorem Ready.read_saved (ready : disk.Ready folder outline base)
    (fits : outline.Fits folder) (plain : IsPlain name) {text : String}
    {after : Disk}
    (done : disk.save folder (folder.child name) text = .ok after) :
    after.read (folder.child name) = .ok text := by
  obtain ⟨target, saved⟩ := ready.saved fits plain done
  exact read_eq_ok_iff.mpr
    ⟨_, _, saved.locate target, saved.here, fromUTF8?_toUTF8 text⟩

/-- A file that was saved leaves the others alone. -/
theorem Ready.read_saved_other (ready : disk.Ready folder outline base)
    (fits : outline.Fits folder) (plain : IsPlain name) {other : String}
    (otherPlain : IsPlain other) (apart : name ≠ other) {text kept : String}
    {after : Disk}
    (done : disk.save folder (folder.child other) text = .ok after)
    (held : disk.read (folder.child name) = .ok kept) :
    after.read (folder.child name) = .ok kept := by
  obtain ⟨_, saved⟩ := ready.saved fits otherPlain done
  obtain ⟨location, content, there, stands, decoded⟩ := read_eq_ok_iff.mp held
  have place := ready.locate_eq fits plain there
  refine read_eq_ok_iff.mpr
    ⟨location, content, saved.grows.locate there, ?_, decoded⟩
  rw [saved.elsewhere location ?_]
  · exact stands
  · rw [place]
    intro same
    exact apart (outline.lastStep_injective
      (List.cons.inj (List.append_cancel_left same)).1)

end

/-- The files have plain names in the folder. -/
def PlainFiles (folder : Path) (files : List (Path × String)) : Prop :=
  ∀ file ∈ files, ∃ name, IsPlain name ∧ file.1 = folder.child name

section

variable {folder : Path} {outline : Path.Outline} {disk : Disk}
  {base : Location} {files : List (Path × String)}

theorem Ready.grows_saveAll (ready : disk.Ready folder outline base)
    (fits : outline.Fits folder) (plain : PlainFiles folder files)
    {after : Disk} (done : disk.saveAll folder files = .ok after) :
    disk.Grows after := by
  induction files generalizing disk with
  | nil =>
      cases done
      exact .refl _
  | cons file files induction =>
      obtain ⟨name, named, path⟩ := plain file List.mem_cons_self
      rw [saveAll_cons, path] at done
      obtain ⟨middle, first, rest⟩ := exists_of_bind_eq_ok done
      obtain ⟨_, saved⟩ := ready.saved fits named first
      apply saved.grows.trans
      exact induction (saved.grows.ready ready)
        (fun other member => plain other (List.mem_cons_of_mem file member))
        rest

/-- Saving files leaves those with other names alone. -/
theorem Ready.read_saveAll_other (ready : disk.Ready folder outline base)
    (fits : outline.Fits folder) (plain : PlainFiles folder files)
    {after : Disk} (done : disk.saveAll folder files = .ok after)
    {name : String} (named : IsPlain name)
    (apart : folder.child name ∉ files.map Prod.fst) {text : String}
    (held : disk.read (folder.child name) = .ok text) :
    after.read (folder.child name) = .ok text := by
  induction files generalizing disk with
  | nil =>
      cases done
      exact held
  | cons file files induction =>
      obtain ⟨other, otherNamed, path⟩ := plain file List.mem_cons_self
      rw [saveAll_cons, path] at done
      obtain ⟨middle, first, rest⟩ := exists_of_bind_eq_ok done
      obtain ⟨_, saved⟩ := ready.saved fits otherNamed first
      rw [List.map_cons, List.mem_cons, not_or, path] at apart
      apply induction (saved.grows.ready ready)
        (fun other member => plain other (List.mem_cons_of_mem file member))
        rest apart.2
      exact ready.read_saved_other fits named otherNamed
        (fun same => apart.1 (congrArg folder.child same)) first held

/-- The same file saved on a disk and on one that has grown from it. -/
theorem Grows.saved {before after grown grownAfter : Disk} {location : Location}
    {text : String} (grows : before.Grows grown)
    (saved : before.Saved after location text)
    (grownSaved : grown.Saved grownAfter location text) :
    after.Grows grownAfter := by
  refine ⟨?_, ?_, ?_⟩
  · rw [grownSaved.grows.workingFolder, grows.workingFolder,
      saved.grows.workingFolder]
  · intro other there
    by_cases here : other = location
    · rw [here, grownSaved.here]
      rfl
    · rw [saved.elsewhere other here] at there
      rw [grownSaved.elsewhere other here]
      exact grows.stands other there
  · intro other there
    by_cases here : other = location
    · rw [here, Disk.isFolderAt, Disk.isFolderAt, grownSaved.here, saved.here]
    · rw [saved.elsewhere other here] at there
      rw [Disk.isFolderAt, Disk.isFolderAt, grownSaved.elsewhere other here,
        saved.elsewhere other here]
      exact grows.kind other there

/-- What could be saved on a disk that has grown could also be saved before. -/
theorem Ready.exists_saveAll_of_grows {grown : Disk}
    (ready : disk.Ready folder outline base) (grows : disk.Grows grown)
    (fits : outline.Fits folder) (plain : PlainFiles folder files)
    {after : Disk} (done : grown.saveAll folder files = .ok after) :
    ∃ alone, disk.saveAll folder files = .ok alone := by
  induction files generalizing disk grown with
  | nil => exact ⟨disk, rfl⟩
  | cons file files induction =>
      obtain ⟨name, named, path⟩ := plain file List.mem_cons_self
      rw [saveAll_cons, path] at done ⊢
      obtain ⟨middle, first, rest⟩ := exists_of_bind_eq_ok done
      have grownReady := grows.ready ready
      obtain ⟨target, grownSaved⟩ := grownReady.saved fits named first
      obtain ⟨fit, short, free, _⟩ :=
        (grownReady.fileTarget_iff fits named).mp target
      -- A folder in the way would be in the way on the grown disk, too.
      have freeBefore :
          disk.isFolderAt (base ++ [outline.lastStep name]) = false := by
        rw [← Bool.not_eq_true]
        intro blocked
        rw [grows.isFolderAt blocked] at free
        cases free
      obtain ⟨alone, written, saved⟩ := saved_of_fileTarget
        ((ready.fileTarget_iff fits named).mpr ⟨fit, short, freeBefore, rfl⟩)
        file.2
      rw [ready.save_eq fits named, written]
      exact induction (saved.grows.ready ready) (grows.saved saved grownSaved)
        (fun other member => plain other (List.mem_cons_of_mem file member))
        rest

end

/-! ### Any disk -/

section

variable {folder : Path} {disk after : Disk}

/-- Where the first file could be saved, it is as if the folder had been there
before. -/
theorem exists_ready_of_saveAll {outline : Path.Outline}
    (fits : outline.Fits folder) {file : Path × String}
    {files : List (Path × String)} (plain : PlainFiles folder (file :: files))
    (done : disk.saveAll folder (file :: files) = .ok after) :
    ∃ made base, made.Ready folder outline base ∧ disk.Grows made ∧
      ∀ {others}, PlainFiles folder others → others ≠ [] →
        disk.saveAll folder others = made.saveAll folder others := by
  obtain ⟨name, named, path⟩ := plain file List.mem_cons_self
  rw [saveAll_cons, path] at done
  obtain ⟨middle, first, _⟩ := exists_of_bind_eq_ok done
  obtain ⟨made, base, ready, grows, same⟩ :=
    exists_ready_of_save fits named first
  refine ⟨made, base, ready, grows, ?_⟩
  intro others othersPlain some
  cases others with
  | nil => exact absurd rfl some
  | cons other others =>
      obtain ⟨name, named, path⟩ := othersPlain other List.mem_cons_self
      rw [saveAll_cons, saveAll_cons, path, same named]

theorem grows_saveAll {files : List (Path × String)}
    (plain : PlainFiles folder files)
    (done : disk.saveAll folder files = .ok after) : disk.Grows after := by
  obtain ⟨outline, fits⟩ := folder.exists_outline
  cases files with
  | nil =>
      cases done
      exact .refl _
  | cons file files =>
      obtain ⟨made, base, ready, grows, same⟩ :=
        exists_ready_of_saveAll fits plain done
      rw [same plain (List.cons_ne_nil file files)] at done
      exact grows.trans (ready.grows_saveAll fits plain done)

/-- Each file holds what was saved under its name last. -/
theorem read_saveAll {front back : List (Path × String)} {path : Path}
    {text : String} (plain : PlainFiles folder (front ++ (path, text) :: back))
    (done : disk.saveAll folder (front ++ (path, text) :: back) = .ok after)
    (last : path ∉ back.map Prod.fst) : after.read path = .ok text := by
  obtain ⟨outline, fits⟩ := folder.exists_outline
  have plainFront : PlainFiles folder front :=
    fun file member => plain file (List.mem_append_left _ member)
  have plainBack : PlainFiles folder ((path, text) :: back) :=
    fun file member => plain file (List.mem_append_right _ member)
  rw [saveAll_append] at done
  obtain ⟨middle, _, rest⟩ := exists_of_bind_eq_ok done
  obtain ⟨made, base, ready, _, same⟩ :=
    exists_ready_of_saveAll fits plainBack rest
  rw [same plainBack (List.cons_ne_nil _ back)] at rest
  obtain ⟨name, named, rfl⟩ := plainBack (path, text) List.mem_cons_self
  rw [saveAll_cons] at rest
  obtain ⟨saved, first, others⟩ := exists_of_bind_eq_ok rest
  obtain ⟨_, done⟩ := ready.saved fits named first
  exact (done.grows.ready ready).read_saveAll_other fits
    (fun file member => plainBack file (List.mem_cons_of_mem _ member)) others
    named last (ready.read_saved fits named first)

/-- Files with different names are all there in the end. -/
theorem read_saveAll_of_nodup {files : List (Path × String)}
    (plain : PlainFiles folder files)
    (done : disk.saveAll folder files = .ok after)
    (different : (files.map Prod.fst).Nodup) {file : Path × String}
    (member : file ∈ files) : after.read file.1 = .ok file.2 := by
  obtain ⟨front, back, rfl⟩ := List.append_of_mem member
  rw [List.map_append, List.map_cons, List.nodup_append] at different
  exact read_saveAll plain done (List.nodup_cons.mp different.2.1).1

/-- Files that could be saved after others could also be saved without them. -/
theorem exists_saveAll_of_append {front back : List (Path × String)}
    (plain : PlainFiles folder (front ++ back))
    (done : disk.saveAll folder (front ++ back) = .ok after) :
    ∃ alone, disk.saveAll folder back = .ok alone := by
  obtain ⟨outline, fits⟩ := folder.exists_outline
  have plainFront : PlainFiles folder front :=
    fun file member => plain file (List.mem_append_left back member)
  have plainBack : PlainFiles folder back :=
    fun file member => plain file (List.mem_append_right front member)
  rw [saveAll_append] at done
  obtain ⟨middle, first, rest⟩ := exists_of_bind_eq_ok done
  cases front with
  | nil =>
      cases first
      exact ⟨after, rest⟩
  | cons file front =>
      obtain ⟨made, base, ready, _, same⟩ :=
        exists_ready_of_saveAll fits plainFront first
      cases back with
      | nil => exact ⟨disk, rfl⟩
      | cons other back =>
          rw [same plainFront (List.cons_ne_nil file front)] at first
          rw [same plainBack (List.cons_ne_nil other back)]
          exact ready.exists_saveAll_of_grows
            (ready.grows_saveAll fits plainFront first) fits plainBack rest

end

end Disk

/-! ### Actions that save files -/

namespace Application

/-- The application once these files were written, too. -/
def remembering (app : Application) (paths : List Path) : Application :=
  { app with written := app.written ++ paths }

theorem remembering_nil (app : Application) : app.remembering [] = app := by
  rw [remembering, List.append_nil]

theorem remembering_append (app : Application) (paths others : List Path) :
    app.remembering (paths ++ others) =
      (app.remembering paths).remembering others := by
  rw [remembering, ← List.append_assoc]
  rfl

/-- The applications have the same objects, whatever they have written. -/
def SameObjects (left right : Application) : Prop :=
  ∃ written, left = { right with written }

theorem SameObjects.refl (app : Application) : app.SameObjects app :=
  ⟨app.written, rfl⟩

theorem SameObjects.remembering {left right : Application}
    (same : left.SameObjects right) (paths : List Path) :
    (left.remembering paths).SameObjects right := by
  obtain ⟨written, rfl⟩ := same
  exact ⟨written ++ paths, rfl⟩

end Application

namespace Action

variable {α β γ : Type} {app : Application}

/-- With these objects in the application, the action changes the disk as
`change` does, remembers the paths as written and gives the value; it fails only
where `change` does, and for the same reason. -/
structure Saves (app : Application) (change : Disk → Except DiskError Disk)
    (paths : List Path) (value : α) (action : Action α) : Prop where
  works : ∀ {before : Workspace} {disk : Disk},
    before.application.SameObjects app → change before.disk = .ok disk →
      ∃ journal, action.run.run before = (.ok value, { before with
        disk, journal, application := before.application.remembering paths })
  fails : ∀ {before : Workspace} {reason : DiskError},
    before.application.SameObjects app → change before.disk = .error reason →
      (action.run.run before).1 = .error (.disk reason)

theorem saves_pure (value : α) : Saves app .ok [] value (pure value) := by
  constructor
  · rintro before _ _ ⟨⟩
    exact ⟨before.journal, by rw [Application.remembering_nil]; rfl⟩
  · rintro _ _ _ ⟨⟩

theorem saves_bind {first : Action α} {next : α → Action β}
    {start finish : Disk → Except DiskError Disk} {paths others : List Path}
    {value : α} {result : β} (begun : Saves app start paths value first)
    (continued : Saves app finish others result (next value)) :
    Saves app (fun disk => start disk >>= finish) (paths ++ others) result
      (first >>= next) := by
  constructor
  · intro before disk same done
    obtain ⟨middle, started, finished⟩ := exists_of_bind_eq_ok done
    obtain ⟨journal, ran⟩ := begun.works same started
    rw [run_bind_ok ran, Application.remembering_append]
    exact continued.works (same.remembering paths) finished
  · intro before reason same failed
    cases started : start before.disk with
    | error other =>
        rw [started] at failed
        cases failed
        have ran : first.run.run before =
            (.error (.disk reason), (first.run.run before).2) :=
          Prod.ext (begun.fails same started) rfl
        rw [run_bind_error ran]
    | ok middle =>
        rw [started] at failed
        obtain ⟨journal, ran⟩ := begun.works same started
        rw [run_bind_ok ran]
        exact continued.fails (same.remembering paths) failed

theorem saves_return {action : Action α}
    {change : Disk → Except DiskError Disk} {paths : List Path} {value : α}
    (saves : Saves app change paths value action) (result : α → β) :
    Saves app change paths (result value)
      (action >>= fun given => pure (result given)) := by
  have both : Saves app (fun disk => change disk >>= .ok) (paths ++ [])
      (result value) (action >>= fun given => pure (result given)) :=
    saves_bind saves (saves_pure (result value))
  have same : (fun disk => change disk >>= .ok) = change :=
    funext fun disk => bind_pure (change disk)
  rw [List.append_nil, same] at both
  exact both

/-- An action that only looks at the workspace may go before. -/
theorem saves_of_run_eq {change : Disk → Except DiskError Disk}
    {paths : List Path} {value : α} {action other : Action α}
    (same : ∀ before : Workspace, before.application.SameObjects app →
      other.run.run before = action.run.run before)
    (saves : Saves app change paths value action) :
    Saves app change paths value other := by
  constructor
  · intro before disk objects done
    rw [same before objects]
    exact saves.works objects done
  · intro before reason objects failed
    rw [same before objects]
    exact saves.fails objects failed

theorem run_createFolders_ok {path : Path} {before : Workspace} {disk : Disk}
    (made : before.disk.createFolders path = (.ok (), disk)) :
    (createFolders path .disk).run.run before =
      (.ok (), { before with disk }) := by
  rw [createFolders, run_get_bind, made]
  rfl

theorem run_createFolders_error {path : Path} {before : Workspace}
    {disk : Disk} {reason : DiskError}
    (failed : before.disk.createFolders path = (.error reason, disk)) :
    (createFolders path .disk).run.run before =
      (.error (.disk reason), { before with disk }) := by
  rw [createFolders, run_get_bind, failed]
  rfl

theorem saves_createFolders (path : Path) :
    Saves app (·.makeFolder path) [] () (createFolders path .disk) := by
  constructor
  · intro before disk _ done
    dsimp only [Disk.makeFolder] at done
    split at done
    · rename_i made
      cases done
      refine ⟨before.journal, ?_⟩
      rw [run_createFolders_ok made, Application.remembering_nil]
    · cases done
  · intro before reason _ failed
    dsimp only [Disk.makeFolder] at failed
    split at failed
    · cases failed
    · rename_i made
      cases failed
      rw [run_createFolders_error made]

theorem saves_store (path : Path) (text : String) :
    Saves app (·.write path text) [path] () (store path text) := by
  constructor
  · intro before disk _ written
    refine ⟨before.journal ++ [⟨.debug, "wrote " ++ path.text⟩], ?_⟩
    rw [store, run_get_bind, written]
    rfl
  · intro before reason _ failed
    rw [store, run_get_bind, failed]
    rfl

theorem saves_writeFile (path : Path) (text : String) :
    Saves app
      (fun disk => path.folder?.toList.foldlM Disk.makeFolder disk >>=
        (·.write path text))
      [path] () (writeFile path text) := by
  unfold writeFile
  cases path.folder? with
  | none => exact saves_store path text
  | some folder =>
      simp only [Option.toList_some, List.foldlM_cons, List.foldlM_nil,
        bind_pure]
      exact saves_bind (saves_createFolders folder) (saves_store path text)

theorem saves_writeExport (folder : Path) (name text : String) :
    Saves app (·.save folder (folder.child name) text) [folder.child name]
      (folder.child name) (writeExport folder name text) := by
  simp only [Disk.save, List.foldlM_cons, bind_assoc]
  exact saves_bind (saves_createFolders folder)
    (saves_return (saves_writeFile (folder.child name) text) fun _ =>
      folder.child name)

/-- Saving a file for each item saves all of them. -/
theorem saves_mapM {folder : Path} {action : γ → Action Path}
    {path : γ → Path} {text : γ → String} {items : List γ}
    (each : ∀ item ∈ items, Saves app
      (·.save folder (path item) (text item)) [path item] (path item)
      (action item)) :
    Saves app
      (·.saveAll folder (items.map fun item => (path item, text item)))
      (items.map path) (items.map path) (items.mapM action) := by
  induction items with
  | nil => exact saves_pure []
  | cons item items induction =>
      rw [List.mapM_cons]
      have others := induction fun other member =>
        each other (List.mem_cons_of_mem item member)
      exact saves_bind (each item List.mem_cons_self)
        (saves_return others (path item :: ·))

/-- What an action that saves files gave, it saved. -/
theorem Saves.of_run {change : Disk → Except DiskError Disk}
    {paths : List Path} {value : α} {action : Action α}
    (saves : Saves app change paths value action) {before after : Workspace}
    (same : before.application.SameObjects app) {given : α}
    (ran : action.run.run before = (.ok given, after)) :
    given = value ∧ change before.disk = .ok after.disk ∧
      after.application = before.application.remembering paths ∧
      after.session = before.session := by
  cases changed : change before.disk with
  | error reason =>
      have failed := saves.fails same changed
      rw [ran] at failed
      cases failed
  | ok disk =>
      obtain ⟨journal, done⟩ := saves.works same changed
      rw [ran] at done
      cases done
      exact ⟨rfl, rfl, rfl, rfl⟩

end Action

end GridScript
