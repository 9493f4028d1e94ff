import GridScript.Text.Basic

/-!
# File paths

A path is its text.  Parts of it are found by splitting at slashes; repeated
slashes, slashes at the end and inner dots say nothing, a dot at the front and
two dots anywhere do.  Nothing here looks at a disk.
-/

namespace GridScript

/-- A file path, as written. -/
structure Path where
  text : String
  deriving DecidableEq, Repr, Inhabited

/-- The parts between slashes, empty ones included. -/
def splitSlash : List Char → List (List Char)
  | [] => [[]]
  | c :: rest =>
    if c = '/' then [] :: splitSlash rest
    else
      match splitSlash rest with
      | [] => [[c]]
      | part :: more => (c :: part) :: more

/-- The parts with slashes between them. -/
def joinSlash : List (List Char) → List Char
  | [] => []
  | [part] => part
  | part :: more => part ++ '/' :: joinSlash more

/-- A part that says nothing: an empty one or a single dot. -/
def isIdlePart (part : List Char) : Bool :=
  part.isEmpty || part == ['.']

namespace Path

def isAbsolute (p : Path) : Bool :=
  p.text.toList.head? == some '/'

/-- A slash or a dot that is a component of its own at the front. -/
def anchor (p : Path) : List Char :=
  match p.text.toList with
  | '/' :: _ => ['/']
  | ['.'] => ['.']
  | '.' :: '/' :: _ => ['.']
  | _ => []

/-- The parts behind the anchor, last one first, without idle parts at the
end. -/
def reversedParts (p : Path) : List (List Char) :=
  (splitSlash (p.text.toList.drop p.anchor.length)).reverse.dropWhile isIdlePart

/-- The components that make up the path: its anchor and the parts that say
something. -/
def components (p : Path) : List String :=
  let parts := p.reversedParts.reverse.filter (!isIdlePart ·)
  ((if p.anchor.isEmpty then [] else [p.anchor]) ++ parts).map String.ofList

/-- A path from its anchor and its parts, last one first.  Idle parts at the end
go. -/
def ofReversedParts (anchor : List Char) (parts : List (List Char)) : Path :=
  ⟨String.ofList (anchor ++ joinSlash (parts.dropWhile isIdlePart).reverse)⟩

/-- The path without its last component. -/
def parent? (p : Path) : Option Path :=
  match p.reversedParts with
  | _ :: front => some (ofReversedParts p.anchor front)
  | [] => if p.anchor == ['.'] then some ⟨""⟩ else none

/-- The parent, its parent and so on, given the anchor and the parts of a path,
last one first. -/
def parentsFrom (anchor : List Char) : List (List Char) → List Path
  | [] => if anchor == ['.'] then [⟨""⟩] else []
  | part :: front =>
    if isIdlePart part then parentsFrom anchor front
    else ofReversedParts anchor front :: parentsFrom anchor front

/-- The path itself, its parent, the parent of that and so on. -/
def ancestors (p : Path) : List Path :=
  p :: parentsFrom p.anchor p.reversedParts

/-- The parent, unless it is empty. -/
def folder? (p : Path) : Option Path :=
  p.parent?.filter (!·.text.isEmpty)

/-- The last component, if it is a name. -/
def fileName? (p : Path) : Option (List Char) :=
  p.reversedParts.head?.filter (· != ['.', '.'])

/-- A name split at its last dot.  A dot that starts the name does not count. -/
def splitExtension (name : List Char) : List Char × Option (List Char) :=
  match splitAtFirst? (· == '.') name.reverse with
  | some (extension, stem) =>
    if stem.isEmpty then (name, none)
    else (stem.reverse, some extension.reverse)
  | none => (name, none)

/-- The last component without its extension. -/
def fileStem? (p : Path) : Option String :=
  p.fileName?.map fun name => String.ofList (splitExtension name).1

/-- What follows the last dot of the last component. -/
def extension? (p : Path) : Option String :=
  p.fileName?.bind fun name => (splitExtension name).2.map String.ofList

/-- The second path as seen from the first.  An absolute path stays as it is. -/
def join (base p : Path) : Path :=
  if p.isAbsolute then p
  else if base.text.isEmpty || base.text.toList.getLast? == some '/' then
    ⟨base.text ++ p.text⟩
  else ⟨base.text ++ "/" ++ p.text⟩

/-- A name in a folder. -/
def child (base : Path) (name : String) : Path :=
  base.join ⟨name⟩

end Path

end GridScript
