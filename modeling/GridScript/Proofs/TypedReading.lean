import GridScript.Proofs.Arguments
import GridScript.Proofs.Stepping

/-!
# What is read has its type

Every value that is read has the type that it is read for, and every invocation
that is read from a script has a slot for each of its fields, in order, with a
value of the type of that field.
-/

namespace GridScript

namespace Cursor

theorem inInt64_of_readInt {c : Cursor} {value : Int}
    (read : c.readInt.1 = some value) : InInt64 value := by
  unfold readInt at read
  split at read
  · cases read
  · split at read
    · rename_i found
      cases read
      unfold Numeral.toInt? parseInt64? at found
      exact of_decide_eq_true (Option.filter_eq_some_iff.mp found).2
    · cases read

theorem mem_of_readVariant {names : Enumeration} {c : Cursor} {name : String}
    (read : (c.readVariant names).1 = some name) : name ∈ names.variants := by
  unfold readVariant at read
  dsimp only at read
  split at read
  · rename_i found
    cases read
    exact List.mem_of_find?_eq_some found
  · cases read

theorem hasType_of_resolveReference {objects : ObjectTable}
    {className token : String} {c : Cursor} {object : Option ObjectRef}
    (resolved : (c.resolveReference objects className token).1 = object) :
    (Value.reference object).HasType objects (.reference className) := by
  subst resolved
  unfold resolveReference
  split
  · exact .null className
  · split
    · exact .null className
    · rename_i id isNumber
      split
      · exact .null className
      · split
        · rename_i known
          refine .object ?_ known
          unfold parseNat64? at isNumber
          split at isNumber
          · cases isNumber
          · exact of_decide_eq_true (Option.filter_eq_some_iff.mp isNumber).2
        · exact .null className

theorem listStep_read {α : Type} {item : Cursor → Option α × Cursor}
    {c after : Cursor} {read : Option α}
    (step : listStep item c = .continued read after) :
    read = none ∨ ∃ start, (item start).1 = read := by
  unfold listStep at step
  dsimp only at step
  split at step
  · cases step
  · split at step
    · cases step
    · split at step
      · cases step
        exact .inl rfl
      · split at step
        · cases step
        · cases step
          exact .inr ⟨_, rfl⟩

/-- Every item of a list was read somewhere. -/
theorem exists_of_mem_readItems {α : Type}
    {item : Cursor → Option α × Cursor} (c : Cursor) {value : α}
    (member : value ∈ (readItems item c).1) :
    ∃ start, (item start).1 = some value := by
  cases step : listStep item c with
  | finished after =>
      rw [readItems_of_finished step] at member
      cases member
  | continued read after =>
      have less := listStep_length_lt step
      rw [readItems_of_continued step] at member
      rcases List.mem_append.mp member with here | later
      · rcases listStep_read step with rfl | ⟨start, rfl⟩
        · cases here
        · exact ⟨start, Option.mem_toList.mp here⟩
      · exact exists_of_mem_readItems after later
termination_by c.rest.length

theorem exists_of_mem_readList {α : Type} {item : Cursor → Option α × Cursor}
    {c : Cursor} {items : List α} (read : (c.readList item).1 = some items)
    {value : α} (member : value ∈ items) :
    ∃ start, (item start).1 = some value := by
  unfold readList at read
  dsimp only at read
  split at read
  · cases read
    exact exists_of_mem_readItems _ member
  · cases read

theorem hasType_of_readReference {objects : ObjectTable} {className : String}
    (c : Cursor) :
    (Value.reference (c.readReference objects className).1).HasType
      objects (.reference className) := by
  unfold readReference
  dsimp only
  split
  · exact .null className
  · exact hasType_of_resolveReference rfl

theorem hasType_of_readReferenceItem {objects : ObjectTable}
    {className : String} {c : Cursor} {object : Option ObjectRef}
    (read : (c.readReferenceItem objects className).1 = some object) :
    (Value.reference object).HasType objects (.reference className) := by
  unfold readReferenceItem at read
  dsimp only at read
  split at read
  · cases read
  · exact hasType_of_resolveReference (Option.some.inj read)

theorem exists_of_unlessEnd {read : Cursor → Option Value × Cursor}
    {c : Cursor} {value : Value} (found : (c.unlessEnd read).1 = some value) :
    ∃ start, (read start).1 = some value := by
  unfold unlessEnd at found
  dsimp only at found
  split at found
  · cases found
  · exact ⟨_, found⟩

/-- A value that is read has the type that it is read for. -/
theorem hasType_of_readValue {objects : ObjectTable} {type : ValueType}
    {c : Cursor} {value : Value}
    (read : (c.readValue objects type).1 = some value) :
    value.HasType objects type := by
  induction type generalizing c value with
  | string =>
      obtain ⟨start, found⟩ := exists_of_unlessEnd read
      cases found
      exact .string _
  | bool =>
      obtain ⟨start, found⟩ := exists_of_unlessEnd read
      cases found
      exact .bool _
  | int =>
      obtain ⟨start, found⟩ := exists_of_unlessEnd read
      obtain ⟨number, isRead, rfl⟩ := Option.map_eq_some_iff.mp found
      exact .int (inInt64_of_readInt isRead)
  | double =>
      obtain ⟨start, found⟩ := exists_of_unlessEnd read
      obtain ⟨number, _, rfl⟩ := Option.map_eq_some_iff.mp found
      exact .double number
  | enumeration names =>
      obtain ⟨start, found⟩ := exists_of_unlessEnd read
      obtain ⟨name, isRead, rfl⟩ := Option.map_eq_some_iff.mp found
      exact .variant (mem_of_readVariant isRead)
  | array element induction =>
      obtain ⟨start, found⟩ := exists_of_unlessEnd read
      obtain ⟨items, isRead, rfl⟩ := Option.map_eq_some_iff.mp found
      refine .array fun item member => ?_
      obtain ⟨itemStart, itemRead⟩ := exists_of_mem_readList isRead member
      exact induction itemRead
  | reference className =>
      obtain ⟨start, found⟩ := exists_of_unlessEnd read
      have typed := @hasType_of_readReference objects className start
      generalize start.readReference objects className = result at found typed
      cases found
      exact typed
  | references className =>
      obtain ⟨start, found⟩ := exists_of_unlessEnd read
      obtain ⟨items, isRead, rfl⟩ := Option.map_eq_some_iff.mp found
      refine .references fun item member => ?_
      obtain ⟨object, inItems, rfl⟩ := List.mem_map.mp member
      obtain ⟨itemStart, itemRead⟩ := exists_of_mem_readList isRead inItems
      exact hasType_of_readReferenceItem itemRead

end Cursor

namespace Parser

/-- What holds of every invocation at its defaults, and is kept by every value
that is read for it, holds of all invocations of a script. -/
theorem readScript_keeps {registry : Registry} {dialect : Dialect}
    {objects : ObjectTable} {Holds : Invocation → Prop}
    (created : ∀ keyword invocation line,
      registry.create? keyword = some invocation →
        Holds { invocation with line })
    (kept : ∀ c before after, Holds before → Sets objects c before after →
      Holds after)
    (c : Cursor) {invocation : Invocation}
    (member : invocation ∈ (readScript registry dialect objects c).1) :
    Holds invocation := by
  have statement : ∀ here : Cursor, ∀ invocation,
      (readStatement registry dialect objects here).1 = some invocation →
        Holds invocation := by
    intro here invocation read
    unfold readStatement at read
    split at read
    · cases read
    · dsimp only at read
      split at read
      · cases read
      · rename_i known
        unfold readInvocation at read
        dsimp only at read
        split at read
        · cases read
          refine readArguments_keeps _ ?_ (created _ _ here.line known)
          intro c before after _
          exact kept c before after
        · cases read
  rw [readScript] at member
  dsimp only at member
  split at member
  · cases member
  · rename_i unread
    have less := script_length_lt registry dialect objects unread
    rcases List.mem_append.mp member with here | later
    · exact statement _ _ (Option.mem_toList.mp here)
    · exact readScript_keeps created kept _ later
termination_by c.rest.length

end Parser

/-- The slot after it may have been set. -/
theorem Arguments.mem_zip_setSlots {fields : List Field} {slots : List Slot}
    (aligned : slots.map (·.name) = fields.map (·.name)) {name : String}
    {value : Value} {pair : Field × Slot}
    (member : pair ∈ fields.zip (setSlots name value slots)) :
    pair ∈ fields.zip slots ∨
      pair.1.name = name ∧ pair.2.value = value ∧ pair.2.explicit = true := by
  induction slots generalizing fields with
  | nil => exact .inl member
  | cons slot slots induction =>
      cases fields with
      | nil => cases member
      | cons field fields =>
          simp only [List.map_cons, List.cons.injEq] at aligned
          unfold setSlots at member
          split at member
          · rename_i named
            rcases List.mem_cons.mp member with rfl | later
            · exact .inr ⟨aligned.1.symm.trans (beq_iff_eq.mp named), rfl, rfl⟩
            · exact .inl (List.mem_cons_of_mem _ later)
          · rcases List.mem_cons.mp member with rfl | later
            · exact .inl List.mem_cons_self
            · rcases induction aligned.2 later with inside | set
              · exact .inl (List.mem_cons_of_mem _ inside)
              · exact .inr set

theorem Arguments.eq_initial_of_mem_zip {fields : List Field}
    {pair : Field × Slot}
    (member : pair ∈ fields.zip (ofDefaults fields).slots) :
    pair.2 = pair.1.initial := by
  induction fields with
  | nil => cases member
  | cons field fields induction =>
      rcases List.mem_cons.mp member with rfl | later
      · rfl
      · exact induction later

/-- The field can be read from a script: its default has its type and refers to
no object. -/
structure Field.Regular (field : Field) : Prop where
  scriptable : field.scriptable = true
  default : field.default.HasType .empty field.type

namespace Invocation

/-- Every field has its slot with a value of its type, and what was not set is
at its default. -/
structure Sound (objects : ObjectTable) (invocation : Invocation) : Prop where
  aligned : invocation.Aligned
  typed : ∀ pair ∈ invocation.fields.zip invocation.arguments.slots,
    pair.2.value.HasType objects pair.1.type
  unset : ∀ pair ∈ invocation.fields.zip invocation.arguments.slots,
    pair.2.explicit = false → pair.2.value = pair.1.default

theorem sound_ofCommand (objects : ObjectTable) (keyword : String) (line : Nat)
    {command : Command}
    (defaults : ∀ field ∈ command.fields,
      field.default.HasType objects field.type) :
    Sound objects { ofCommand keyword command with line } := by
  refine ⟨Arguments.names_ofDefaults _, ?_, ?_⟩
  · intro pair member
    rw [Arguments.eq_initial_of_mem_zip member]
    exact defaults _ (List.of_mem_zip member).1
  · intro pair member _
    rw [Arguments.eq_initial_of_mem_zip member]
    rfl

theorem Sound.sets {objects : ObjectTable} {c : Cursor}
    {before after : Invocation}
    (distinct : (before.fields.map (·.name)).Nodup)
    (sound : before.Sound objects)
    (sets : Parser.Sets objects c before after) : after.Sound objects := by
  obtain ⟨field, inFields, _, start, value, _, read, rfl⟩ := sets
  have typed := Cursor.hasType_of_readValue read
  refine ⟨(Arguments.names_setSlots _ _ _).trans sound.aligned, ?_, ?_⟩
  · intro pair member
    rcases Arguments.mem_zip_setSlots sound.aligned member with
      inside | ⟨named, isValue, _⟩
    · exact sound.typed pair inside
    · have isField : pair.1 = field := Field.eq_of_name_eq distinct
        (List.of_mem_zip member).1 inFields named
      rw [isField, isValue]
      exact typed
  · intro pair member unset
    rcases Arguments.mem_zip_setSlots sound.aligned member with
      inside | ⟨_, _, explicit⟩
    · exact sound.unset pair inside unset
    · rw [explicit] at unset
      cases unset

end Invocation

end GridScript
