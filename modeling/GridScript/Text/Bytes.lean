/-!
# Bytes of a text

How many bytes the characters of a text take in UTF-8, and cutting a text after
so many of them.
-/

namespace GridScript

/-- The bytes that a text takes. -/
def byteSize : List Char → Nat
  | [] => 0
  | c :: rest => c.utf8Size + byteSize rest

/-- Takes bytes away from the front.  There is no answer if the cut falls inside
a character. -/
def dropBytes? : Nat → List Char → Option (List Char)
  | 0, text => some text
  | _ + 1, [] => none
  | count + 1, c :: rest =>
    if c.utf8Size ≤ count + 1 then dropBytes? (count + 1 - c.utf8Size) rest
    else none

/-- The characters that begin within the first bytes of a text. -/
def takeBytes : Nat → List Char → List Char
  | 0, _ => []
  | _ + 1, [] => []
  | count + 1, c :: rest => c :: takeBytes (count + 1 - c.utf8Size) rest

theorem byteSize_append (front rest : List Char) :
    byteSize (front ++ rest) = byteSize front + byteSize rest := by
  induction front with
  | nil => rw [List.nil_append, byteSize, Nat.zero_add]
  | cons c front induction =>
    rw [List.cons_append, byteSize, byteSize, induction, Nat.add_assoc]

theorem byteSize_singleton (c : Char) : byteSize [c] = c.utf8Size :=
  Nat.add_zero c.utf8Size

/-- A first character takes a byte at least. -/
theorem exists_byteSize_cons (c : Char) (rest : List Char) :
    ∃ count, byteSize (c :: rest) = count + 1 := by
  have some := c.utf8Size_pos
  exact Nat.exists_eq_add_one.mpr (by rw [byteSize]; omega)

theorem dropBytes?_append (front rest : List Char) :
    dropBytes? (byteSize front) (front ++ rest) = some rest := by
  induction front with
  | nil => rw [byteSize, List.nil_append, dropBytes?]
  | cons c front induction =>
    obtain ⟨count, size⟩ := exists_byteSize_cons c front
    rw [size, List.cons_append, dropBytes?, ← size, byteSize,
      if_pos (Nat.le_add_right _ _), Nat.add_sub_cancel_left, induction]

theorem takeBytes_append (front rest : List Char) :
    takeBytes (byteSize front) (front ++ rest) = front := by
  induction front with
  | nil => rw [byteSize, takeBytes]
  | cons c front induction =>
    obtain ⟨count, size⟩ := exists_byteSize_cons c front
    rw [size, List.cons_append, takeBytes, ← size, byteSize,
      Nat.add_sub_cancel_left, induction]

end GridScript
