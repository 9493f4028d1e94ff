import GridScript.Proofs.RoundTrip
import GridScript.Proofs.TypedReading

/-!
# What a script gives conforms to what is declared

Whatever stands in a script, and whatever goes wrong while it is read, the
invocations that come out of it agree with the declarations of their commands.
Only one thing ever happens to an invocation after it is made from the defaults:
a value is read for a field that scripts may set, and is put into its slot.
-/

namespace GridScript

/-- The fields of the command have names of their own and defaults of their
types. -/
structure Command.WellDeclared (objects : ObjectTable) (command : Command) :
    Prop where
  distinct : (command.fields.map (·.name)).Nodup
  defaults : ∀ field ∈ command.fields,
    field.default.HasType objects field.type

namespace Registry

theorem mem_of_named? {registry : Registry} {name : String} {command : Command}
    (found : registry.named? name = some command) :
    command ∈ registry.commands :=
  List.mem_of_find?_eq_some found

theorem mem_of_get? {registry : Registry} {keyword : String}
    {command : Command} (found : registry.get? keyword = some command) :
    command ∈ registry.commands := by
  rw [get?, Option.orElse_eq_orElse, Option.orElse_eq_or,
    Option.or_eq_some_iff] at found
  rcases found with named | ⟨_, aliased⟩
  · exact mem_of_named? named
  · obtain ⟨name, _, named⟩ := Option.bind_eq_some_iff.mp aliased
    exact mem_of_named? named

end Registry

namespace Invocation

/-- The invocation is one of the command that the registry has for its keyword.
Its slots are those of the fields, in order, with values of their types; a field
that was not set has its default, and so has every field that scripts may not
set. -/
structure Conforms (registry : Registry) (objects : ObjectTable)
    (invocation : Invocation) : Prop where
  registered : registry.get? invocation.keyword = some invocation.command
  sound : invocation.Sound objects
  internal : ∀ pair ∈ invocation.fields.zip invocation.arguments.slots,
    pair.1.scriptable = false →
      pair.2.explicit = false ∧ pair.2.value = pair.1.default

theorem conforms_ofCommand {registry : Registry} {objects : ObjectTable}
    {keyword : String} {command : Command} (line : Nat)
    (found : registry.get? keyword = some command)
    (declared : command.WellDeclared objects) :
    Conforms registry objects { ofCommand keyword command with line } := by
  refine ⟨found, sound_ofCommand objects keyword line declared.defaults, ?_⟩
  intro pair member _
  rw [Arguments.eq_initial_of_mem_zip member]
  exact ⟨rfl, rfl⟩

/-- Setting a field that scripts may set keeps an invocation conforming. -/
theorem Conforms.sets {registry : Registry} {objects : ObjectTable}
    {c : Cursor} {before after : Invocation}
    (distinct : (before.fields.map (·.name)).Nodup)
    (conforms : before.Conforms registry objects)
    (sets : Parser.Sets objects c before after) :
    after.Conforms registry objects := by
  have sound := conforms.sound.sets distinct sets
  obtain ⟨field, inFields, scriptable, _, value, _, _, rfl⟩ := sets
  refine ⟨conforms.registered, sound, ?_⟩
  intro pair member isInternal
  rcases Arguments.mem_zip_setSlots conforms.sound.aligned member with
    inside | ⟨named, _, _⟩
  · exact conforms.internal pair inside isInternal
  · -- The slot that was set belongs to the field, and that is not internal.
    have isField : pair.1 = field := Field.eq_of_name_eq distinct
      (List.of_mem_zip member).1 inFields named
    rw [isField, scriptable] at isInternal
    cases isInternal

/-- Every invocation that is read from a script, however malformed, conforms to
the declaration of its command. -/
theorem conforms_of_mem_parseScript {registry : Registry} {dialect : Dialect}
    {objects : ObjectTable} {text : String} {invocation : Invocation}
    (declared : ∀ command ∈ registry.commands, command.WellDeclared objects)
    (member : invocation ∈
      (parseScript registry dialect objects text).invocations) :
    invocation.Conforms registry objects := by
  apply Parser.readScript_keeps ?_ ?_ (.ofText text) member
  · intro keyword invocation line created
    obtain ⟨command, found, rfl⟩ := Option.map_eq_some_iff.mp created
    exact conforms_ofCommand line found
      (declared command (Registry.mem_of_get? found))
  · intro c before after conforms sets
    have known := Registry.mem_of_get? conforms.registered
    exact conforms.sets (declared _ known).distinct sets

/-- The text has an unknown command, an argument for the internal field, items
and objects that do not fit, an unknown variant, and ends where a number should
follow. -/
theorem conforms_of_mem_parseScript_garbled :
    let registry : Registry := { commands := [survey] }
    let objects := ObjectTable.ofList [⟨"View", 3⟩]
    let text := "nonsense)\nsurvey(serial=9, layers=[[1, x], 2, [3]], " ++
      "views=[View:3, View:8, Case:3], mode=NONE, mode=SLOW, factor="
    let shown := fun invocation : Invocation =>
      invocation.arguments.slots.map fun slot =>
        (slot.name, slot.value.encode, slot.explicit)
    let expected :=
      [("title", "\"\"", false), ("layers", "[[1], [3]]", true),
        ("mode", "SLOW", true), ("factor", "0.00000000000000e0", false),
        ("views", "[View:3]", true), ("origin", "", false),
        ("serial", "7", false)]
    ∃ invocation ∈ (parseScript registry {} objects text).invocations,
      shown invocation = expected ∧ invocation.Conforms registry objects := by
  intro registry objects text shown expected
  have declared : ∀ command ∈ registry.commands,
      command.WellDeclared objects := by
    intro command member
    rw [List.mem_singleton.mp member]
    exact ⟨by decide, by decide⟩
  have read : expected ∈
      (parseScript registry {} objects text).invocations.map shown := by
    decide +kernel
  obtain ⟨invocation, member, slots⟩ := List.mem_map.mp read
  exact ⟨invocation, member, slots,
    conforms_of_mem_parseScript declared member⟩

end Invocation

end GridScript
