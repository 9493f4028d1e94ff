import GridScript.Engine.Recorder
import GridScript.Proofs.SameDisk

/-!
# What a recorder has been given

What waits in the buffer and what stands in the file are together the text that
was recorded, however often the buffer was written out on the way.  Nothing but
the file changes.
-/

namespace GridScript

namespace Disk

/-- Bytes that are written at the end of a file are appended. -/
theorem writeAt_end {disk : Disk} {location : Location} {content : ByteArray}
    (file : disk.find? location = some (.file content)) (bytes : ByteArray) :
    disk.writeAt location content.size bytes =
      disk.put location (.file (content ++ bytes)) := by
  have gap : (⟨Array.replicate (content.size - content.size) 0⟩ : ByteArray) =
      ByteArray.empty := by
    rw [Nat.sub_self]
    rfl
  have back : content.extract (content.size + bytes.size) content.size =
      ByteArray.empty := ByteArray.extract_add_left
  simp only [writeAt, file, gap, back, ByteArray.append_empty,
    ByteArray.extract_zero_size]

end Disk

namespace Recorder

/-- What was recorded so far: the file and what waits behind it. -/
structure Holds (recorder : Recorder) (disk : Disk) (text : String) :
    Prop where
  below : recorder.location ≠ []
  written : ∃ front : String,
    disk.find? recorder.location = some (.file front.toUTF8) ∧
      recorder.offset = front.utf8ByteSize ∧ front ++ recorder.pending = text

/-- After some text was added. -/
structure Adds (recorder : Recorder) (disk : Disk) (text : String)
    (after : Recorder × Disk) : Prop where
  holds : after.1.Holds after.2 text
  location : after.1.location = recorder.location
  format : after.1.format = recorder.format
  elsewhere : after.2.SameOff recorder.location disk

/-- A recorder begins with the opening of its format. -/
theorem holds_start {disk after : Disk} {path : Path} {recorder : Recorder}
    (started : start disk path = .ok (recorder, after)) :
    recorder.format = .ofPath path ∧
      recorder.Holds after recorder.format.opening := by
  unfold start at started
  rw [Disk.create_eq] at started
  cases target : disk.fileTarget path with
  | error reason =>
      rw [target] at started
      cases started
  | ok location =>
      rw [target] at started
      cases started
      have below := Disk.ne_nil_of_fileTarget target
      refine ⟨rfl, below, "", Disk.find?_put_self _ below _, rfl, ?_⟩
      exact String.empty_append

theorem Adds.trans {recorder : Recorder} {disk : Disk} {text more : String}
    {middle after : Recorder × Disk} (first : recorder.Adds disk text middle)
    (second : middle.1.Adds middle.2 more after) :
    recorder.Adds disk more after := by
  refine ⟨second.holds, second.location.trans first.location,
    second.format.trans first.format, ?_⟩
  have further := second.elsewhere
  rw [first.location] at further
  exact further.trans first.elsewhere

theorem adds_emit {recorder : Recorder} {disk : Disk} {text : String}
    (holds : recorder.Holds disk text) (empty : recorder.pending = "")
    (more : String) :
    recorder.Adds disk (text ++ more) (recorder.emit disk more) := by
  obtain ⟨below, front, file, offset, whole⟩ := holds
  rw [empty, String.append_empty] at whole
  subst whole
  unfold emit
  split
  · rename_i isEmpty
    rw [String.isEmpty_iff.mp isEmpty, String.append_empty]
    exact ⟨⟨below, front, file, offset, by rw [empty, String.append_empty]⟩,
      rfl, rfl, .refl _ _⟩
  · have appended : disk.writeAt recorder.location recorder.offset
        more.toUTF8 = disk.put recorder.location
          (.file (front ++ more).toUTF8) := by
      rw [offset]
      exact Disk.writeAt_end file more.toUTF8
    rw [appended]
    refine ⟨⟨below, front ++ more, Disk.find?_put_self _ below _, ?_, ?_⟩, rfl,
      rfl, Disk.sameOff_put _ _ _⟩
    · change recorder.offset + _ = _
      rw [offset, String.utf8ByteSize_append]
    · change front ++ more ++ recorder.pending = _
      rw [empty, String.append_empty]

theorem adds_flush {recorder : Recorder} {disk : Disk} {text : String}
    (holds : recorder.Holds disk text) :
    recorder.Adds disk text (recorder.flush disk) := by
  obtain ⟨below, front, file, offset, rfl⟩ := holds
  have drained : Holds { recorder with pending := "" } disk front :=
    ⟨below, front, file, offset, String.append_empty⟩
  obtain ⟨holds, location, format, elsewhere⟩ :=
    adds_emit drained rfl recorder.pending
  exact ⟨holds, location, format, elsewhere⟩

theorem pending_flush (recorder : Recorder) (disk : Disk) :
    (recorder.flush disk).1.pending = "" := by
  unfold flush emit
  split <;> rfl

/-- Once the buffer is written out, all that was recorded is in the file. -/
theorem Holds.find?_flush {recorder : Recorder} {disk : Disk} {text : String}
    (holds : recorder.Holds disk text) :
    (recorder.flush disk).2.find? recorder.location =
      some (.file text.toUTF8) := by
  have adds := adds_flush holds
  obtain ⟨_, front, file, _, whole⟩ := adds.holds
  rw [pending_flush, String.append_empty] at whole
  rw [adds.location, whole] at file
  exact file

theorem adds_add {recorder : Recorder} {disk : Disk} {text : String}
    (holds : recorder.Holds disk text) (more : String) :
    recorder.Adds disk (text ++ more) (recorder.add disk more) := by
  unfold add
  dsimp only
  -- What does not fit beside the text is written out; nothing waits then.
  have flushed : ∀ kept : Recorder × Disk, kept =
      (if recorder.pending.utf8ByteSize + more.utf8ByteSize ≤ capacity then
        (recorder, disk) else recorder.flush disk) →
      recorder.Adds disk text kept ∧
        (capacity ≤ more.utf8ByteSize → kept.1.pending = "") := by
    rintro kept rfl
    split
    · rename_i fits
      refine ⟨⟨holds, rfl, rfl, .refl _ _⟩, fun long => ?_⟩
      rw [← String.utf8ByteSize_eq_zero_iff]
      change recorder.pending.utf8ByteSize = 0
      omega
    · exact ⟨adds_flush holds, fun _ => pending_flush recorder disk⟩
  obtain ⟨adds, empty⟩ := flushed _ rfl
  generalize (if recorder.pending.utf8ByteSize + more.utf8ByteSize ≤ capacity
    then (recorder, disk) else recorder.flush disk) = kept at adds empty ⊢
  split
  · obtain ⟨⟨below, front, file, offset, whole⟩, location, format, elsewhere⟩ :=
      adds
    refine ⟨⟨below, front, file, offset, ?_⟩, location, format, elsewhere⟩
    rw [← whole, String.append_assoc]
  · rename_i long
    exact adds.trans
      (adds_emit adds.holds (empty (Nat.le_of_not_lt long)) more)

theorem adds_record {recorder : Recorder} {disk : Disk} {text : String}
    (holds : recorder.Holds disk text) (invocation : Invocation)
    (response : Response) :
    recorder.Adds disk
      (text ++ recorder.format.entry invocation response ++ "\n")
      (recorder.record disk invocation response) := by
  have entry := adds_add holds (recorder.format.entry invocation response)
  exact entry.trans (adds_add entry.holds "\n")

end Recorder

end GridScript
