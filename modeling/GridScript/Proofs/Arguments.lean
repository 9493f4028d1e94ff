import GridScript.Command.Basic
import GridScript.Proofs.Typing

/-!
# Setting fields

What `Arguments.set` changes and what it leaves alone, and the invocation that
script text can say again: `Invocation.restated` has every shown argument set
and every other field at its default.
-/

namespace GridScript

namespace Arguments

theorem names_setSlots (name : String) (value : Value) (slots : List Slot) :
    (setSlots name value slots).map (·.name) = slots.map (·.name) := by
  induction slots with
  | nil => rfl
  | cons slot slots induction =>
      rw [setSlots]
      split
      · rfl
      · simp [induction]

theorem find?_setSlots_of_ne {name other : String} (apart : other ≠ name)
    (value : Value) (slots : List Slot) :
    (setSlots name value slots).find? (·.name == other) =
      slots.find? (·.name == other) := by
  induction slots with
  | nil => rfl
  | cons slot slots induction =>
      rw [setSlots]
      split
      · rename_i named
        have unnamed : (slot.name == other) = false := by
          rw [beq_iff_eq.mp named]
          exact beq_eq_false_iff_ne.mpr apart.symm
        simp [unnamed]
      · simp only [List.find?_cons, induction]

theorem find?_setSlots_self {name : String} (value : Value)
    {slots : List Slot} (present : name ∈ slots.map (·.name)) :
    (setSlots name value slots).find? (·.name == name) =
      some ⟨name, value, true⟩ := by
  induction slots with
  | nil => cases present
  | cons slot slots induction =>
      rw [setSlots]
      split
      · rename_i named
        have same : slot.name = name := beq_iff_eq.mp named
        simp [same]
      · rename_i unnamed
        have later : name ∈ slots.map (·.name) := by
          rcases List.mem_cons.mp present with here | later
          · exact absurd (beq_iff_eq.mpr here.symm) unnamed
          · exact later
        simp only [List.find?_cons, unnamed]
        exact induction later

theorem get?_set_of_ne {name other : String} (apart : other ≠ name)
    (arguments : Arguments) (value : Value) :
    (arguments.set name value).get? other = arguments.get? other := by
  simp only [get?, set, find?_setSlots_of_ne apart]

theorem get?_set_self {arguments : Arguments} {name : String} (value : Value)
    (present : name ∈ arguments.slots.map (·.name)) :
    (arguments.set name value).get? name = some value := by
  simp only [get?, set, find?_setSlots_self value present, Option.map_some]

theorem isSet_set_of_ne {name other : String} (apart : other ≠ name)
    (arguments : Arguments) (value : Value) :
    (arguments.set name value).isSet other = arguments.isSet other := by
  obtain ⟨slots⟩ := arguments
  simp only [isSet, set]
  induction slots with
  | nil => rfl
  | cons slot slots induction =>
      rw [setSlots]
      split
      · rename_i named
        have unnamed : (slot.name == other) = false := by
          rw [beq_iff_eq.mp named]
          exact beq_eq_false_iff_ne.mpr apart.symm
        simp [unnamed]
      · simp only [List.any_cons, induction]

theorem isSet_set_self {arguments : Arguments} {name : String} (value : Value)
    (present : name ∈ arguments.slots.map (·.name)) :
    (arguments.set name value).isSet name = true := by
  obtain ⟨slots⟩ := arguments
  have found := find?_setSlots_self value present
  rw [isSet, List.any_eq_true]
  exact ⟨_, List.mem_of_find?_eq_some found, by simp⟩

theorem isSet_ofDefaults (fields : List Field) (name : String) :
    (ofDefaults fields).isSet name = false := by
  simp [isSet, ofDefaults]

/-- Fields of different names may be set in any order. -/
theorem setSlots_comm {name other : String} (apart : other ≠ name)
    (value value' : Value) (slots : List Slot) :
    setSlots other value' (setSlots name value slots) =
      setSlots name value (setSlots other value' slots) := by
  induction slots with
  | nil => rfl
  | cons slot slots induction =>
      by_cases named : slot.name = name
      · simp [setSlots, named, apart.symm]
      · by_cases otherNamed : slot.name = other
        · simp [setSlots, otherNamed, apart]
        · simp [setSlots, named, otherNamed, induction]

theorem set_comm {name other : String} (apart : other ≠ name)
    (arguments : Arguments) (value value' : Value) :
    (arguments.set name value).set other value' =
      (arguments.set other value').set name value :=
  congrArg Arguments.mk (setSlots_comm apart value value' arguments.slots)

/-- Slots under other names stay in front of the slot that is set. -/
theorem setSlots_append {name : String} (value : Value) {done : List Slot}
    (apart : ∀ slot ∈ done, slot.name ≠ name) (slots : List Slot) :
    setSlots name value (done ++ slots) =
      done ++ setSlots name value slots := by
  induction done with
  | nil => rfl
  | cons slot done induction =>
      have unnamed : (slot.name == name) = false :=
        beq_eq_false_iff_ne.mpr (apart slot List.mem_cons_self)
      have later := induction fun slot member =>
        apart slot (List.mem_cons_of_mem _ member)
      simp [setSlots, unnamed, later]

end Arguments

/-- Sets fields one after another. -/
def Arguments.setAll (arguments : Arguments) (values : List (Field × Value)) :
    Arguments :=
  values.foldl (fun arguments pair => arguments.set pair.1.name pair.2)
    arguments

theorem Arguments.setAll_cons (arguments : Arguments) (pair : Field × Value)
    (values : List (Field × Value)) :
    arguments.setAll (pair :: values) =
      (arguments.set pair.1.name pair.2).setAll values := rfl

theorem Arguments.get?_setAll_of_not_mem {name : String}
    (values : List (Field × Value)) (arguments : Arguments)
    (absent : ∀ pair ∈ values, name ≠ pair.1.name) :
    (arguments.setAll values).get? name = arguments.get? name := by
  induction values generalizing arguments with
  | nil => rfl
  | cons pair values induction =>
      have later := induction (arguments.set pair.1.name pair.2)
        fun other member => absent other (List.mem_cons_of_mem _ member)
      rw [setAll_cons, later]
      exact get?_set_of_ne (absent pair List.mem_cons_self) _ _

theorem Arguments.get?_setAll_of_mem {values : List (Field × Value)}
    {arguments : Arguments} (distinct : (values.map (·.1.name)).Nodup)
    {pair : Field × Value} (member : pair ∈ values)
    (present : pair.1.name ∈ arguments.slots.map (·.name)) :
    (arguments.setAll values).get? pair.1.name = some pair.2 := by
  induction values generalizing arguments with
  | nil => cases member
  | cons first values induction =>
      rw [List.map_cons, List.nodup_cons] at distinct
      rw [setAll_cons]
      rcases List.mem_cons.mp member with rfl | later
      · rw [get?_setAll_of_not_mem]
        · exact get?_set_self _ present
        · intro other inValues same
          exact distinct.1 (same ▸ List.mem_map.mpr ⟨other, inValues, rfl⟩)
      · apply induction distinct.2 later
        rwa [set, names_setSlots]

theorem Arguments.names_ofDefaults (fields : List Field) :
    (ofDefaults fields).slots.map (·.name) = fields.map (·.name) := by
  simp [ofDefaults]

theorem Arguments.get?_ofDefaults {fields : List Field} {field : Field}
    (distinct : (fields.map (·.name)).Nodup) (member : field ∈ fields) :
    (ofDefaults fields).get? field.name = some field.default := by
  simp only [get?, ofDefaults]
  induction fields with
  | nil => cases member
  | cons head fields induction =>
      rw [List.map_cons, List.nodup_cons] at distinct
      rcases List.mem_cons.mp member with rfl | later
      · simp
      · have apart : (head.name == field.name) = false := by
          rw [beq_eq_false_iff_ne]
          intro same
          exact distinct.1 (same ▸ List.mem_map.mpr ⟨field, later, rfl⟩)
        rw [List.map_cons, List.find?_cons]
        simp only [apart]
        exact induction distinct.2 later

/-- Names tell fields apart. -/
theorem Field.eq_of_name_eq {fields : List Field}
    (distinct : (fields.map (·.name)).Nodup) {left right : Field}
    (inLeft : left ∈ fields) (inRight : right ∈ fields)
    (named : left.name = right.name) : left = right := by
  induction fields with
  | nil => cases inLeft
  | cons field fields induction =>
      rw [List.map_cons, List.nodup_cons] at distinct
      rcases List.mem_cons.mp inLeft with rfl | leftLater
      · rcases List.mem_cons.mp inRight with rfl | rightLater
        · rfl
        · exact absurd (List.mem_map.mpr ⟨right, rightLater, named.symm⟩)
            distinct.1
      · rcases List.mem_cons.mp inRight with rfl | rightLater
        · exact absurd (List.mem_map.mpr ⟨left, leftLater, named⟩) distinct.1
        · exact induction distinct.2 leftLater rightLater

/-- The slot of a field at its default. -/
def Field.initial (field : Field) : Slot :=
  { name := field.name, value := field.default }

/-- Whether script text shows a field that has this value. -/
def Field.shows (field : Field) (value : Value) : Bool :=
  field.scriptable && !value.isNullReference

/-- The slot of a field once its value went through script text. -/
def Field.restated (field : Field) (value : Value) : Slot :=
  if field.shows value then
    { name := field.name, value := value.pruned, explicit := true }
  else field.initial

/-- The slot as it is read where only these objects are known. -/
def Slot.resolved (objects : ObjectTable) (slot : Slot) : Slot :=
  if slot.explicit then { slot with value := slot.value.resolved objects }
  else slot

/-- The fields with their values as they are read from script text. -/
def reread (objects : ObjectTable) (values : List (Field × Value)) :
    List (Field × Value) :=
  values.map fun pair => (pair.1, pair.2.pruned.resolved objects)

theorem reread_cons (objects : ObjectTable) (pair : Field × Value)
    (values : List (Field × Value)) :
    reread objects (pair :: values) =
      (pair.1, pair.2.pruned.resolved objects) :: reread objects values := rfl

namespace Invocation

/-- The invocation as its own script text says it: the shown arguments are set,
without null references in arrays, and every other field has its default. -/
def restated (invocation : Invocation) (line : Nat) : Invocation :=
  { keyword := invocation.name
    line
    command := invocation.command
    arguments := ⟨List.zipWith (fun field slot => field.restated slot.value)
      invocation.fields invocation.arguments.slots⟩ }

/-- The invocation as it is read where only these objects are known. -/
def resolved (objects : ObjectTable) (invocation : Invocation) : Invocation :=
  { invocation with
    arguments := ⟨invocation.arguments.slots.map (Slot.resolved objects)⟩ }

/-- The shown fields with their values. -/
def shownFields (invocation : Invocation) : List (Field × Value) :=
  ((invocation.fields.zip invocation.arguments.slots).filter fun pair =>
    pair.1.shows pair.2.value).map fun pair => (pair.1, pair.2.value)

/-- Every field has its slot, in order. -/
def Aligned (invocation : Invocation) : Prop :=
  invocation.arguments.slots.map (·.name) = invocation.fields.map (·.name)

end Invocation

theorem Slot.name_eq_of_mem_zip {fields : List Field} {slots : List Slot}
    (aligned : slots.map (·.name) = fields.map (·.name))
    {pair : Field × Slot} (member : pair ∈ fields.zip slots) :
    pair.2.name = pair.1.name := by
  induction fields generalizing slots with
  | nil => cases member
  | cons field fields induction =>
      cases slots with
      | nil => cases member
      | cons slot slots =>
          simp only [List.map_cons, List.cons.injEq] at aligned
          rcases List.mem_cons.mp member with rfl | later
          · exact aligned.1
          · exact induction aligned.2 later

/-- The first slot with a name is that of the first field with it. -/
theorem Slot.exists_field {fields : List Field} {slots : List Slot}
    (aligned : slots.map (·.name) = fields.map (·.name)) {name : String}
    {slot : Slot} (found : slots.find? (·.name == name) = some slot) :
    ∃ field, fields.find? (·.name == name) = some field ∧
      (field, slot) ∈ fields.zip slots := by
  induction fields generalizing slots with
  | nil =>
      rw [List.map_eq_nil_iff.mp aligned] at found
      cases found
  | cons field fields induction =>
      cases slots with
      | nil => cases found
      | cons head slots =>
          simp only [List.map_cons, List.cons.injEq] at aligned
          simp only [List.find?_cons, ← aligned.1, List.zip_cons_cons]
          cases same : head.name == name with
          | true =>
              rw [List.find?_cons, same] at found
              cases found
              exact ⟨field, rfl, List.mem_cons_self⟩
          | false =>
              rw [List.find?_cons, same] at found
              obtain ⟨other, isOther, inside⟩ := induction aligned.2 found
              exact ⟨other, isOther, List.mem_cons_of_mem _ inside⟩

theorem Invocation.map_fst_fields_zip {invocation : Invocation}
    (aligned : invocation.Aligned) :
    (invocation.fields.zip invocation.arguments.slots).map Prod.fst =
      invocation.fields := by
  have lengths := congrArg List.length aligned
  simp only [List.length_map] at lengths
  exact List.map_fst_zip (Nat.le_of_eq lengths.symm)

theorem Invocation.map_snd_fields_zip {invocation : Invocation}
    (aligned : invocation.Aligned) :
    (invocation.fields.zip invocation.arguments.slots).map Prod.snd =
      invocation.arguments.slots := by
  have lengths := congrArg List.length aligned
  simp only [List.length_map] at lengths
  exact List.map_snd_zip (Nat.le_of_eq lengths)

/-- Setting the chosen ones among some fields of different names sets just
these. -/
theorem setAll_chosen {α : Type} (field : α → Field) (chosen : α → Bool)
    (value : α → Value) (items : List α) (done : List Slot)
    (distinct : (items.map fun item => (field item).name).Nodup)
    (apart : ∀ slot ∈ done, ∀ item ∈ items, slot.name ≠ (field item).name) :
    Arguments.setAll ⟨done ++ items.map fun item => (field item).initial⟩
        ((items.filter chosen).map fun item => (field item, value item)) =
      ⟨done ++ items.map fun item =>
        if chosen item then ⟨(field item).name, value item, true⟩
        else (field item).initial⟩ := by
  induction items generalizing done with
  | nil => rfl
  | cons item items induction =>
      rw [List.map_cons, List.nodup_cons] at distinct
      -- The slot of the first field joins those that are done, set or not.
      have later : ∀ slot : Slot, slot.name = (field item).name →
          ∀ earlier ∈ done ++ [slot], ∀ other ∈ items,
            earlier.name ≠ (field other).name := by
        intro slot named earlier member other inItems
        rcases List.mem_append.mp member with inDone | last
        · exact apart earlier inDone other (List.mem_cons_of_mem _ inItems)
        · rw [List.mem_singleton.mp last, named]
          intro same
          exact distinct.1 (same ▸ List.mem_map.mpr ⟨other, inItems, rfl⟩)
      by_cases isChosen : chosen item = true
      · have set := Arguments.setSlots_append (value item)
          (fun slot member => apart slot member item List.mem_cons_self)
          ((field item).initial :: items.map fun item => (field item).initial)
        have rest := induction (done ++ [⟨(field item).name, value item, true⟩])
          distinct.2 (later _ rfl)
        rw [List.append_assoc, List.append_assoc] at rest
        rw [List.filter_cons, if_pos isChosen, List.map_cons, List.map_cons,
          List.map_cons, if_pos isChosen, Arguments.setAll_cons,
          Arguments.set, set]
        simpa [Arguments.setSlots, Field.initial] using rest
      · have rest := induction (done ++ [(field item).initial]) distinct.2
          (later _ rfl)
        rw [List.append_assoc, List.append_assoc] at rest
        rw [List.filter_cons, if_neg isChosen, List.map_cons, List.map_cons,
          if_neg isChosen]
        exact rest

/-- Setting the shown fields of an invocation, starting from the defaults,
restates it. -/
theorem Invocation.setAll_shownFields (objects : ObjectTable)
    (invocation : Invocation) (line : Nat) (aligned : invocation.Aligned)
    (distinct : (invocation.fields.map (·.name)).Nodup) :
    (Arguments.ofDefaults invocation.fields).setAll
        (reread objects invocation.shownFields) =
      ((invocation.restated line).resolved objects).arguments := by
  have firsts := map_fst_fields_zip aligned
  have defaults : Arguments.ofDefaults invocation.fields =
      ⟨[] ++ (invocation.fields.zip invocation.arguments.slots).map
        (·.1.initial)⟩ := by
    rw [Arguments.ofDefaults, ← firsts, List.map_map, firsts]
    rfl
  have names : ((invocation.fields.zip invocation.arguments.slots).map
      (·.1.name)).Nodup := by
    rw [← firsts, List.map_map] at distinct
    exact distinct
  have shown := setAll_chosen Prod.fst (fun pair => pair.1.shows pair.2.value)
    (fun pair => pair.2.value.pruned.resolved objects)
    (invocation.fields.zip invocation.arguments.slots) [] names (by simp)
  have slots : ∀ pair : Field × Slot,
      (if pair.1.shows pair.2.value then
        ⟨pair.1.name, pair.2.value.pruned.resolved objects, true⟩
      else pair.1.initial) =
        (pair.1.restated pair.2.value).resolved objects := by
    intro pair
    rw [Field.restated]
    split <;> rfl
  simp only [slots] at shown
  rw [defaults, shownFields, reread, List.map_map]
  refine shown.trans ?_
  simp only [restated, resolved, List.nil_append,
    ← List.map_uncurry_zip_eq_zipWith, List.map_map]
  rfl

end GridScript
