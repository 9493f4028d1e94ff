import GridScript.Proofs.Builtins
import GridScript.Proofs.Vocabulary

/-!
# Invocations that were written down and read again

The text of an invocation says the same as the invocation, with respect to the
objects that are known to whoever reads it.  So the built-in commands do the
same with what is read again.
-/

namespace GridScript

namespace Value

/-- Only an item that is null, or that the reader does not know, is null when it
is read. -/
theorem isNullReference_resolved_pruned (objects : ObjectTable)
    (value : Value) : (value.pruned.resolved objects).isNullReference =
      (value.resolved objects).isNullReference := by
  cases value <;> rfl

mutual

/-- Leaving out null references first changes nothing for a reader who leaves
them out as well. -/
theorem pruned_resolved_pruned (objects : ObjectTable) (value : Value) :
    (value.pruned.resolved objects).pruned =
      (value.resolved objects).pruned := by
  cases value with
  | array items =>
      simp only [pruned, resolved,
        prunedItems_resolvedItems_prunedItems objects items]
  | _ => rfl

theorem prunedItems_resolvedItems_prunedItems (objects : ObjectTable)
    (items : List Value) :
    prunedItems (resolvedItems objects (prunedItems items)) =
      prunedItems (resolvedItems objects items) := by
  cases items with
  | nil => rfl
  | cons item items =>
      have later := prunedItems_resolvedItems_prunedItems objects items
      have here := pruned_resolved_pruned objects item
      cases null : item.isNullReference with
      | true =>
          have same := eq_of_isNullReference null
          subst same
          exact later
      | false =>
          have kept : prunedItems (item :: items) =
              item.pruned :: prunedItems items := by
            simp [prunedItems, null]
          rw [kept, resolvedItems, resolvedItems, prunedItems, prunedItems,
            here, later, isNullReference_resolved_pruned]

end

end Value

namespace Arguments

/-- Slots that correspond say the same. -/
theorem saysSame_map {pairs : List (Field × Slot)}
    {first second : Field × Slot → Slot}
    (corresponds : ∀ pair ∈ pairs, (first pair).name = (second pair).name ∧
      (first pair).value.pruned = (second pair).value.pruned) :
    SaysSame ⟨pairs.map first⟩ ⟨pairs.map second⟩ := by
  intro name
  induction pairs with
  | nil => rfl
  | cons pair pairs induction =>
      obtain ⟨named, value⟩ := corresponds pair List.mem_cons_self
      have later := induction fun other member =>
        corresponds other (List.mem_cons_of_mem _ member)
      simp only [get?, List.map_cons, List.find?_cons, named] at later ⊢
      split
      · exact congrArg some value
      · exact later

end Arguments

namespace Invocation

/-- A slot that was not set refers to nothing that a reader might not know. -/
theorem IsBuiltin.value_resolved {shape : ObjectTable}
    {invocation : Invocation} (builtin : invocation.IsBuiltin shape)
    {pair : Field × Slot}
    (member : pair ∈ invocation.fields.zip invocation.arguments.slots)
    (objects : ObjectTable) :
    (pair.2.resolved objects).value = pair.2.value.resolved objects := by
  unfold Slot.resolved
  split
  · rfl
  · rename_i notSet
    have unset := builtin.sound.unset pair member (Bool.eq_false_iff.mpr notSet)
    have default := (Builtin.regular builtin.command
      (List.of_mem_zip member).1).default
    have known : pair.1.default.KnownIn objects :=
      (default.mono fun _ _ known => by cases known).knownIn
    rw [unset, Value.resolved_eq_self _ known]

/-- A null reference is left out of the text, and so is read as the default,
which is null as well. -/
theorem IsBuiltin.default_eq_null {shape : ObjectTable}
    {invocation : Invocation} (builtin : invocation.IsBuiltin shape)
    {pair : Field × Slot}
    (member : pair ∈ invocation.fields.zip invocation.arguments.slots)
    (null : pair.2.value = .reference none) :
    pair.1.default = .reference none := by
  have default := (Builtin.regular builtin.command
    (List.of_mem_zip member).1).default
  have typed := builtin.sound.typed pair member
  rw [null] at typed
  generalize pair.1.type = type at default typed
  generalize pair.1.default = value at default ⊢
  cases typed
  cases default with
  | null => rfl
  | object _ known => cases known

/-- An invocation that was written down and read again says the same, as far as
the reader knows its objects. -/
theorem IsBuiltin.saysSame {shape : ObjectTable} {invocation : Invocation}
    (builtin : invocation.IsBuiltin shape) (objects : ObjectTable)
    (line : Nat) :
    ((invocation.restated line).resolved objects).arguments.SaysSame
      (invocation.resolved objects).arguments := by
  have slots := map_snd_fields_zip builtin.sound.aligned
  have left : ((invocation.restated line).resolved objects).arguments =
      ⟨(invocation.fields.zip invocation.arguments.slots).map fun pair =>
        (pair.1.restated pair.2.value).resolved objects⟩ := by
    simp only [restated, resolved, ← List.map_uncurry_zip_eq_zipWith,
      List.map_map]
    rfl
  have right : (invocation.resolved objects).arguments =
      ⟨(invocation.fields.zip invocation.arguments.slots).map fun pair =>
        pair.2.resolved objects⟩ := by
    change Arguments.mk (invocation.arguments.slots.map _) = _
    rw [← slots, List.map_map, slots]
    rfl
  rw [left, right]
  apply Arguments.saysSame_map
  intro pair member
  have named := Slot.name_eq_of_mem_zip builtin.sound.aligned member
  have value := builtin.value_resolved member objects
  have slotName : (pair.2.resolved objects).name = pair.1.name := by
    unfold Slot.resolved
    split <;> exact named
  have scriptable := (Builtin.regular builtin.command
    (List.of_mem_zip member).1).scriptable
  rw [slotName, value]
  cases null : pair.2.value.isNullReference with
  | false =>
      have shown : pair.1.shows pair.2.value = true := by
        simp [Field.shows, scriptable, null]
      simp only [Field.restated, shown, if_true, Slot.resolved]
      exact ⟨trivial, Value.pruned_resolved_pruned objects _⟩
  | true =>
      have isNull := Value.eq_of_isNullReference null
      have default := builtin.default_eq_null member isNull
      have hidden : pair.1.restated pair.2.value = pair.1.initial := by
        simp [Field.restated, Field.shows, null]
      have unset : pair.1.initial.resolved objects = pair.1.initial := rfl
      rw [hidden, unset, isNull]
      exact ⟨rfl, congrArg Value.pruned default⟩

/-- A built-in command that was written down and read again does what it would
do with only the objects that the reader knows. -/
theorem IsBuiltin.run_restated {shape : ObjectTable} {invocation : Invocation}
    (builtin : invocation.IsBuiltin shape) (objects : ObjectTable)
    (line : Nat) :
    ((invocation.restated line).resolved objects).run =
      (invocation.resolved objects).run :=
  Builtin.run_eq (builtin.saysSame objects line) builtin.command

/-- Where the objects are known that a script was read with, nothing is
forgotten. -/
theorem Sound.resolved_eq_self {objects : ObjectTable}
    {invocation : Invocation} (sound : invocation.Sound objects) :
    invocation.resolved objects = invocation := by
  have slots : invocation.arguments.slots.map (Slot.resolved objects) =
      invocation.arguments.slots := by
    rw [← map_snd_fields_zip sound.aligned, List.map_map]
    apply List.map_congr_left
    intro pair member
    have known := (sound.typed pair member).knownIn
    rw [Function.comp_apply, Slot.resolved, Value.resolved_eq_self _ known]
    split <;> rfl
  unfold resolved
  rw [slots]

end Invocation

end GridScript
