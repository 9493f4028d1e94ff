import GridScript.Proofs.ReadAgain

/-!
# Values survive their own text

Wherever the text of a value stands in a script, its reader takes just this text
and gives the value back, whatever follows.  Only null references in arrays are
lost, since they have no text.
-/

namespace GridScript

namespace Value

/-- A value without doubles is read back from its text, less the null references
in its arrays.  Nothing is reported, and just the text behind it is left: any
text at all behind a string or an array, the end of a token behind any other
value. -/
theorem readValue_encode {objects : ObjectTable} {type : ValueType}
    {value : Value} (typed : value.HasType objects type)
    (words : type.hasWords = true) (noDouble : type.mayHoldDouble = false)
    (nonNull : value.isNullReference = false) {c : Cursor} {rest : List Char}
    (ends : value.isClosed = true ∨ EndsToken rest)
    (unread : c.rest = value.encode.toList ++ rest) :
    c.readValue objects type =
      (some value.pruned, c.behind value.encode.toList rest) := by
  rw [encode, String.toList_ofList] at unread ⊢
  have known := typed.knownIn
  obtain ⟨found, passes⟩ : (c.readValue objects type).1 = some _ ∧ _ :=
    Cursor.readValue_laid typed (typed.spellable words) (typed.exact noDouble)
      nonNull value.laid_encodeChars ends unread
  rw [resolved_eq_self _ known.pruned] at found
  have left : (c.readValue objects type).2.rest = rest :=
    List.append_cancel_left (passes.rest.symm.trans unread)
  have behind := passes.eq_behind known
  rw [left] at behind
  exact Prod.ext found behind

/-- Lists of views, one of them with a null reference, before a text that begins
like another list, and the least integer before the end of a list. -/
theorem readValue_encode_listing :
    (let value : Value := .array [.array [.reference none,
        .reference (some ⟨"View", 3⟩)], .array []]
      let c := Cursor.ofText (value.encode ++ "[\"")
      c.readValue (.ofList [⟨"View", 3⟩]) (.array (.references "View")) =
        (some (.array [.array [.reference (some ⟨"View", 3⟩)], .array []]),
          c.behind value.encode.toList "[\"".toList)) ∧
      (let value : Value := .int (-0x8000000000000000)
        let c := Cursor.ofText (value.encode ++ "]")
        c.readValue .empty .int =
          (some value, c.behind value.encode.toList "]".toList)) := by
  constructor
  · intro value c
    have typed : value.HasType (.ofList [⟨"View", 3⟩])
        (.array (.references "View")) := by decide +kernel
    exact readValue_encode typed (by decide +kernel) (by decide) (by decide)
      (.inl (by decide)) String.toList_append
  · intro value c
    have inside : InInt64 (-0x8000000000000000) := by decide
    have typed : value.HasType .empty .int := .int inside
    exact readValue_encode typed (by decide) (by decide) (by decide)
      (.inr (endsToken_cons (by decide))) String.toList_append

end Value

end GridScript
