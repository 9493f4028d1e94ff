import GridScript.Text.Bytes
import GridScript.Text.Cluster

/-!
# Typing errors

A backspace in a typed line erases the cluster before it.
-/

namespace GridScript

namespace Shell

/-- The character that erases. -/
def backspace : Char := Char.ofNat 8

/-- A line while it is typed. -/
structure Draft where
  /-- The characters so far, reversed. -/
  reversed : List Char := []
  /-- The sizes of the clusters that can be erased, the last one first. -/
  sizes : List Nat := []
  deriving DecidableEq, Repr

namespace Draft

/-- Erases the last cluster, if there is one. -/
def erase? (draft : Draft) : Option Draft :=
  match draft.sizes with
  | [] => some draft
  | size :: sizes =>
    (dropBytes? size draft.reversed).map fun reversed => { reversed, sizes }

/-- Adds a cluster.  Its size is kept in one byte, so a cluster of 256 bytes or
more will not be erased as a whole. -/
def add (draft : Draft) (cluster : List Char) : Draft :=
  { reversed := cluster.reverse ++ draft.reversed
    sizes := byteSize cluster % 256 :: draft.sizes }

/-- Types one cluster. -/
def type? (draft : Draft) (cluster : List Char) : Option Draft :=
  if cluster = [backspace] then draft.erase? else some (draft.add cluster)

/-- Clusters without a backspace among them are all kept. -/
theorem foldlM_type? (draft : Draft) (typed : List (List Char))
    (plain : [backspace] ∉ typed) :
    (typed.foldlM type? draft).map (·.reversed.reverse) =
      some (draft.reversed.reverse ++ typed.flatten) := by
  induction typed generalizing draft with
  | nil => simp
  | cons cluster rest ih =>
    simp only [List.mem_cons, not_or] at plain
    have kept : type? draft cluster = some (draft.add cluster) :=
      if_neg (Ne.symm plain.1)
    rw [List.foldlM_cons, kept]
    exact (ih (draft.add cluster) plain.2).trans (by simp [add])

end Draft

/-- The line that is left after all erasures, unless one of them cuts a
character in two. -/
def edited? (line : List Char) : Option (List Char) :=
  ((clusters line).foldlM Draft.type? {}).map (·.reversed.reverse)

/-- A line without a backspace is left as it is. -/
theorem edited?_eq_some_self (line : List Char) (plain : backspace ∉ line) :
    edited? line = some line := by
  have apart : [backspace] ∉ clusters line := fun member =>
    plain (flatten_clusters line ▸
      List.mem_flatten_of_mem member (List.mem_singleton.mpr rfl))
  exact (Draft.foldlM_type? {} _ apart).trans (by simp [flatten_clusters])

end Shell

end GridScript
