import GridScript.Disk.Path

/-!
# The disk

Files and folders as a value.  A location is a list of names from the root down;
a path is walked to a location part by part, from the working folder or from the
root.  Every operation answers with the reason if it fails.
-/

namespace GridScript

/-- Why an operation on the disk failed. -/
inductive DiskError where
  | notFound
  | alreadyExists
  | notAFolder
  | isAFolder
  | nameTooLong
  /-- The content is not text. -/
  | notText
  /-- The path holds the character with code zero. -/
  | zeroInName
  deriving DecidableEq, Repr

namespace DiskError

def message : DiskError → String
  | notFound => "No such file or directory (os error 2)"
  | alreadyExists => "File exists (os error 17)"
  | notAFolder => "Not a directory (os error 20)"
  | isAFolder => "Is a directory (os error 21)"
  | nameTooLong => "File name too long (os error 36)"
  | notText => "stream did not contain valid UTF-8"
  | zeroInName => "file name contained an unexpected NUL byte"

end DiskError

/-- Names from the root down. -/
abbrev Location := List String

/-- What stands at a location. -/
inductive Entry where
  | folder
  | file (content : ByteArray)

instance : DecidableEq Entry
  | .folder, .folder => isTrue rfl
  | .folder, .file _ => isFalse nofun
  | .file _, .folder => isFalse nofun
  | .file left, .file right =>
    decidable_of_iff (left.data = right.data) (by cases left; cases right; simp)

/-- All files and folders, and the working folder. -/
structure Disk where
  entries : List (Location × Entry) := []
  workingFolder : Location := []
  deriving Inhabited

namespace Disk

/-- What stands at a location.  The root is always a folder. -/
def find? (disk : Disk) (location : Location) : Option Entry :=
  if location.isEmpty then some .folder
  else (disk.entries.find? (·.1 == location)).map (·.2)

/-- Puts an entry at a location, in place of what stood there. -/
def put (disk : Disk) (location : Location) (entry : Entry) : Disk :=
  { disk with
    entries := disk.entries.filter (·.1 != location) ++ [(location, entry)] }

def isFolderAt (disk : Disk) (location : Location) : Bool :=
  match disk.find? location with
  | some .folder => true
  | _ => false

/-- The longest name, in bytes. -/
def longestName : Nat := 255

/-- The longest path, in bytes. -/
def longestPath : Nat := 4095

/-- Walks down from a location.  Each part has to be entered from a folder. -/
def walk (disk : Disk) (location : Location) :
    List String → Except DiskError Location
  | [] => .ok location
  | part :: more =>
    if !disk.isFolderAt location then .error .notAFolder
    else if part == "." then disk.walk location more
    else if part == ".." then disk.walk location.dropLast more
    else if longestName < part.utf8ByteSize then .error .nameTooLong
    else if (disk.find? (location ++ [part])).isNone then .error .notFound
    else disk.walk (location ++ [part]) more

/-- The parts of a path that are walked. -/
def stepsOf (path : Path) : List String :=
  ((splitSlash path.text.toList).filter (!·.isEmpty)).map String.ofList

/-- Where walking a path starts. -/
def startOf (disk : Disk) (path : Path) : Location :=
  if path.isAbsolute then [] else disk.workingFolder

/-- Whether the path itself asks for a folder. -/
def endsInSlash (path : Path) : Bool :=
  path.text.toList.getLast? == some '/'

/-- Refuses a path that can name nothing. -/
def checkName (path : Path) : Except DiskError Unit :=
  if path.text.toList.contains (Char.ofNat 0) then .error .zeroInName
  else if path.text.isEmpty then .error .notFound
  else if longestPath < path.text.utf8ByteSize then .error .nameTooLong
  else .ok ()

/-- The location of something that is there. -/
def locate (disk : Disk) (path : Path) : Except DiskError Location := do
  checkName path
  let location ← disk.walk (disk.startOf path) (stepsOf path)
  if endsInSlash path && !disk.isFolderAt location then throw .notAFolder
  return location

/-- The folder in which a path names something, and the name, which is none if
the path names the folder itself by dots or slashes. -/
def locateNew (disk : Disk) (path : Path) :
    Except DiskError (Location × Option String) := do
  checkName path
  match (stepsOf path).reverse with
  | [] => return ([], none)
  | last :: front =>
    let location ← disk.walk (disk.startOf path) front.reverse
    if !disk.isFolderAt location then throw .notAFolder
    return (location, if last == "." || last == ".." then none else some last)

/-- Whether there is anything at the path. -/
def exists? (disk : Disk) (path : Path) : Bool :=
  (disk.locate path).isOk

/-- Whether there is a folder at the path. -/
def isFolder (disk : Disk) (path : Path) : Bool :=
  match disk.locate path with
  | .ok location => disk.isFolderAt location
  | .error _ => false

/-- The text of a file. -/
def read (disk : Disk) (path : Path) : Except DiskError String := do
  match disk.find? (← disk.locate path) with
  | some (.file content) =>
    match String.fromUTF8? content with
    | some text => return text
    | none => throw .notText
  | _ => throw .isAFolder

/-- Makes a file empty, or a new empty file, and gives its location. -/
def create (disk : Disk) (path : Path) :
    Except DiskError (Location × Disk) := do
  let (folder, name) ← disk.locateNew path
  match name with
  | none => throw .isAFolder
  | some name =>
    if endsInSlash path then throw .isAFolder
    if longestName < name.utf8ByteSize then throw .nameTooLong
    let location := folder ++ [name]
    if disk.isFolderAt location then throw .isAFolder
    return (location, disk.put location (.file ByteArray.empty))

/-- Writes a whole file. -/
def write (disk : Disk) (path : Path) (text : String) :
    Except DiskError Disk := do
  let (location, disk) ← disk.create path
  return disk.put location (.file text.toUTF8)

/-- Makes one folder. -/
def createFolder (disk : Disk) (path : Path) : Except DiskError Disk := do
  let (folder, name) ← disk.locateNew path
  match name with
  | none => throw .alreadyExists
  | some name =>
    if longestName < name.utf8ByteSize then throw .nameTooLong
    let location := folder ++ [name]
    if (disk.find? location).isSome then throw .alreadyExists
    return disk.put location .folder

/-- Makes the first of the given folders, if need be after making the next one,
which holds it.  Folders made on the way stay, also if a later step fails. -/
def createChain (disk : Disk) : List Path → Except DiskError Unit × Disk
  | [] => (.ok (), disk)
  | path :: above =>
    if path.text.isEmpty then (.ok (), disk)
    else
      match disk.createFolder path with
      | .ok made => (.ok (), made)
      | .error .notFound =>
        match disk.createChain above with
        | (.error reason, reached) => (.error reason, reached)
        | (.ok (), reached) =>
          match reached.createFolder path with
          | .ok made => (.ok (), made)
          | .error reason =>
            if reached.isFolder path then (.ok (), reached)
            else (.error reason, reached)
      | .error reason =>
        if disk.isFolder path then (.ok (), disk) else (.error reason, disk)

/-- Makes a folder and the folders that hold it.  One that is there already is
no failure. -/
def createFolders (disk : Disk) (path : Path) : Except DiskError Unit × Disk :=
  disk.createChain path.ancestors

/-- Writes bytes into a file from an offset on; a gap before the offset is
filled with zeros. -/
def writeAt (disk : Disk) (location : Location) (offset : Nat)
    (bytes : ByteArray) : Disk :=
  match disk.find? location with
  | some (.file content) =>
    let gap : ByteArray := ⟨Array.replicate (offset - content.size) 0⟩
    let front := (content ++ gap).extract 0 offset
    let back := content.extract (offset + bytes.size) content.size
    disk.put location (.file (front ++ bytes ++ back))
  | _ => disk

/-- What is below the working folder, by names from there on. -/
def below (disk : Disk) : List (Location × Entry) :=
  disk.entries.filterMap fun (location, entry) =>
    if disk.workingFolder.isPrefixOf location &&
        location != disk.workingFolder then
      some (location.drop disk.workingFolder.length, entry)
    else none

/-- Makes every folder above a location. -/
def putFoldersAbove (disk : Disk) (location : Location) : Disk :=
  (List.range location.length).foldl (fun disk count =>
    let above := location.take count
    if (disk.find? above).isSome then disk else disk.put above .folder) disk

/-- A disk whose working folder, at the given location, holds the listed
entries. -/
def ofEntries (workingFolder : Location) (entries : List (Location × Entry)) :
    Disk :=
  let empty : Disk := { workingFolder := workingFolder }
  let prepared :=
    (empty.putFoldersAbove workingFolder).put workingFolder .folder
  entries.foldl (fun disk (location, entry) =>
    let full := workingFolder ++ location
    (disk.putFoldersAbove full).put full entry) prepared

end Disk

end GridScript
