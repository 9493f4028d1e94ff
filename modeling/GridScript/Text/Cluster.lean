import GridScript.Text.ClusterRanges

/-!
# Clusters

A cluster is what a reader takes for one character: a letter with its marks, a
syllable, a flag, a pictograph of several parts.  `clusters` cuts a text into
them; put together again they give the text.
-/

namespace GridScript

/-- How a character stands to its neighbours. -/
inductive ClusterClass where
  | carriageReturn
  | newline
  | control
  /-- A mark on the character before it. -/
  | extend
  /-- A mark that binds the consonants on both sides. -/
  | linker
  /-- A mark that keeps consonants apart. -/
  | nonJoiner
  /-- A mark that binds the pictographs on both sides. -/
  | joiner
  | spacingMark
  | prepend
  /-- One half of a flag. -/
  | regional
  | pictograph
  | consonant
  /-- The consonant that begins a syllable. -/
  | leading
  | vowel
  /-- The consonant that ends a syllable. -/
  | trailing
  /-- A syllable without a final consonant. -/
  | openSyllable
  | closedSyllable
  | other
  deriving DecidableEq, Repr

namespace ClusterClass

/-- The classes that are looked up in a table. -/
def tables : List (CodeRanges × ClusterClass) :=
  [(extendRanges, extend), (linkerRanges, linker),
   ([(0x200C, 0x200C)], nonJoiner), ([(0x200D, 0x200D)], joiner),
   (controlRanges, control), (spacingMarkRanges, spacingMark),
   (prependRanges, prepend), ([(0x1F1E6, 0x1F1FF)], regional),
   (pictographRanges, pictograph), (consonantRanges, consonant),
   ([(0x1100, 0x115F), (0xA960, 0xA97C)], leading),
   ([(0x1160, 0x11A7), (0xD7B0, 0xD7C6), (0x16D63, 0x16D63),
     (0x16D67, 0x16D6A)], vowel),
   ([(0x11A8, 0x11FF), (0xD7CB, 0xD7FB)], trailing)]

/-- The class of a character.  Among the syllables every twenty-eighth has no
final consonant. -/
def ofChar (c : Char) : ClusterClass :=
  let code := c.toNat
  if c = '\r' then carriageReturn
  else if c = '\n' then newline
  else if code < 32 then control
  else if code < 127 then other
  else if 0xAC00 ≤ code && code ≤ 0xD7A3 then
    if (code - 0xAC00) % 28 = 0 then openSyllable else closedSyllable
  else ((tables.find? fun table => table.1.holds code).map (·.2)).getD other

/-- Whether the class stands alone. -/
def isSeparate : ClusterClass → Bool
  | carriageReturn => true
  | newline => true
  | control => true
  | _ => false

/-- Whether a character is a mark that lets a pictograph go on. -/
def isExtending : ClusterClass → Bool
  | extend => true
  | linker => true
  | nonJoiner => true
  | _ => false

/-- Whether a character goes with whatever is before it. -/
def isAttached (c : ClusterClass) : Bool :=
  c.isExtending || c == joiner || c == spacingMark

/-- Whether two parts of a syllable go together. -/
def formsSyllable : ClusterClass → ClusterClass → Bool
  | leading, leading => true
  | leading, vowel => true
  | leading, openSyllable => true
  | leading, closedSyllable => true
  | openSyllable, vowel => true
  | openSyllable, trailing => true
  | vowel, vowel => true
  | vowel, trailing => true
  | closedSyllable, trailing => true
  | trailing, trailing => true
  | _, _ => false

end ClusterClass

/-- What matters of a cluster for whether it goes on. -/
structure ClusterState where
  /-- The class of the last character. -/
  last : ClusterClass
  /-- Whether the last character is the second half of a flag. -/
  flagComplete : Bool
  /-- Whether only marks follow a pictograph. -/
  pictograph : Bool
  /-- Whether a joiner follows, behind which another pictograph goes on. -/
  joined : Bool
  /-- Whether only marks follow a consonant, and whether one of them is a
  linker. -/
  consonant : Option Bool
  deriving DecidableEq, Repr

namespace ClusterState

/-- A cluster of one character. -/
def start (c : ClusterClass) : ClusterState where
  last := c
  flagComplete := false
  pictograph := c == .pictograph
  joined := false
  consonant := if c = .consonant then some false else none

/-- Whether a character of a class belongs to the cluster. -/
def continues (state : ClusterState) (c : ClusterClass) : Bool :=
  if state.last = .carriageReturn && c = .newline then true
  else if state.last.isSeparate || c.isSeparate then false
  else
    c.isAttached || state.last == .prepend ||
      ClusterClass.formsSyllable state.last c ||
      (c == .consonant && state.consonant == some true) ||
      (c == .pictograph && state.joined) ||
      (c == .regional && state.last == .regional && !state.flagComplete)

/-- The consonant of the cluster after one more character. -/
def nextConsonant (state : ClusterState) (c : ClusterClass) : Option Bool :=
  match c with
  | .consonant => some false
  | .linker => state.consonant.map fun _ => true
  | .extend => state.consonant
  | .joiner => state.consonant
  | _ => none

/-- The cluster with one more character. -/
def next (state : ClusterState) (c : ClusterClass) : ClusterState where
  last := c
  flagComplete := c == .regional && state.last == .regional
  pictograph := c == .pictograph || (c.isExtending && state.pictograph)
  joined := c == .joiner && state.pictograph
  consonant := state.nextConsonant c

end ClusterState

/-- The clusters of a text of which one is under way; `pending` holds its
characters reversed. -/
def clustersFrom (state : ClusterState) (pending : List Char) :
    List Char → List (List Char)
  | [] => [pending.reverse]
  | c :: rest =>
    let group := ClusterClass.ofChar c
    if state.continues group then
      clustersFrom (state.next group) (c :: pending) rest
    else pending.reverse :: clustersFrom (.start group) [c] rest

/-- The clusters of a text, in order. -/
def clusters : List Char → List (List Char)
  | [] => []
  | c :: rest => clustersFrom (.start (.ofChar c)) [c] rest

theorem flatten_clustersFrom (state : ClusterState) (pending text : List Char) :
    (clustersFrom state pending text).flatten = pending.reverse ++ text := by
  induction text generalizing state pending with
  | nil => simp [clustersFrom]
  | cons c rest ih =>
    unfold clustersFrom
    dsimp only
    split <;> simp [ih]

/-- Nothing of a text is lost. -/
theorem flatten_clusters (text : List Char) :
    (clusters text).flatten = text := by
  cases text with
  | nil => rfl
  | cons c rest => simp [clusters, flatten_clustersFrom]

end GridScript
