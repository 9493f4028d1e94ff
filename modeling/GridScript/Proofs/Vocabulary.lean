import GridScript.Builtin.Registry
import GridScript.Proofs.CommandText
import GridScript.Proofs.TypedReading

/-!
# The words of the built-in commands

Keywords and field names of the built-in commands are identifiers that tell
commands and fields apart, their variants and classes are words, and their
defaults have the types of their fields.  So script text can spell whatever a
script sets.
-/

namespace GridScript

/-- Whether variants and classes in the type are words. -/
def ValueType.hasWords : ValueType → Bool
  | .enumeration names =>
    names.variants.all fun name => decide (IsWordText name)
  | .array element => element.hasWords
  | .reference className => decide (IsWordText className)
  | .references className => decide (IsWordText className)
  | _ => true

theorem Value.HasType.spellable {objects : ObjectTable} {type : ValueType}
    {value : Value} (typed : value.HasType objects type)
    (words : type.hasWords = true) : value.Spellable := by
  rw [← all_hasWords_iff, List.all_eq_true]
  induction typed with
  | variant member =>
      intro leaf inside
      rw [List.mem_singleton.mp inside]
      exact List.all_eq_true.mp words _ member
  | object _ _ =>
      intro leaf inside
      rw [List.mem_singleton.mp inside]
      exact words
  | array _ induction =>
      intro leaf inside
      obtain ⟨item, member, inItem⟩ := exists_mem_of_mem_leavesOf inside
      exact induction item member words leaf inItem
  | references _ induction =>
      intro leaf inside
      obtain ⟨item, member, inItem⟩ := exists_mem_of_mem_leavesOf inside
      exact induction item member words leaf inItem
  | _ =>
      intro leaf inside
      rw [List.mem_singleton.mp inside]
      rfl

namespace Builtin

theorem wellNamed {command : Command} (builtin : command ∈ commands) :
    command.WellNamed := by
  have names : ∀ command ∈ commands, IsIdentifier command.name := by decide
  have fields : ∀ command ∈ commands, ∀ field ∈ command.fields,
      IsIdentifier field.name := by decide
  have distinct : ∀ command ∈ commands,
      (command.fields.flatMap Field.names).Nodup := by decide
  exact ⟨names command builtin, fields command builtin,
    Parser.pairwise_of_nodup_names (distinct command builtin)⟩

theorem regular {command : Command} (builtin : command ∈ commands)
    {field : Field} (member : field ∈ command.fields) : field.Regular := by
  have all : ∀ command ∈ commands, ∀ field ∈ command.fields,
      field.scriptable = true ∧ field.default.HasType .empty field.type := by
    decide
  obtain ⟨scriptable, default⟩ := all command builtin field member
  exact ⟨scriptable, default⟩

theorem hasWords {command : Command} (builtin : command ∈ commands)
    {field : Field} (member : field ∈ command.fields) :
    field.type.hasWords = true := by
  have all : ∀ command ∈ commands, ∀ field ∈ command.fields,
      field.type.hasWords = true := by decide
  exact all command builtin field member

end Builtin

namespace Registry

/-- No built-in command has another keyword than its name. -/
theorem mem_of_get?_builtin {keyword : String} {command : Command}
    (found : Registry.builtin.get? keyword = some command) :
    command ∈ Builtin.commands ∧ command.name = keyword := by
  have named : Builtin.commands.find? (·.name == keyword) = some command := by
    simpa [get?, named?, aliased?, builtin] using found
  have same := List.find?_some named
  exact ⟨List.mem_of_find?_eq_some named, eq_of_beq same⟩

theorem find?_name {commands : List Command}
    (distinct : (commands.map (·.name)).Nodup) {command : Command}
    (member : command ∈ commands) :
    commands.find? (·.name == command.name) = some command := by
  induction commands with
  | nil => cases member
  | cons head commands induction =>
      rw [List.map_cons, List.nodup_cons] at distinct
      rcases List.mem_cons.mp member with rfl | later
      · simp
      · have apart : (head.name == command.name) = false := by
          rw [beq_eq_false_iff_ne]
          intro same
          exact distinct.1 (same ▸ List.mem_map.mpr ⟨command, later, rfl⟩)
        rw [List.find?_cons, apart]
        exact induction distinct.2 later

theorem get?_builtin {command : Command}
    (builtin : command ∈ Builtin.commands) :
    Registry.builtin.get? command.name = some command := by
  have distinct : (Builtin.commands.map (·.name)).Nodup := by decide
  have named : Registry.builtin.named? command.name = some command :=
    find?_name distinct builtin
  simp [get?, named]

end Registry

namespace Invocation

/-- An invocation of a built-in command, as a script gives it where these
objects are known. -/
structure IsBuiltin (objects : ObjectTable) (invocation : Invocation) :
    Prop where
  command : invocation.command ∈ Builtin.commands
  keyword : invocation.keyword = invocation.name
  sound : invocation.Sound objects

theorem isBuiltin_of_mem {dialect : Dialect} {objects : ObjectTable}
    {text : String} {invocation : Invocation}
    (member : invocation ∈
      (parseScript .builtin dialect objects text).invocations) :
    invocation.IsBuiltin objects := by
  apply Parser.readScript_keeps ?_ ?_ (.ofText text) member
  · intro keyword invocation line created
    obtain ⟨command, found, rfl⟩ := Option.map_eq_some_iff.mp created
    obtain ⟨builtin, named⟩ := Registry.mem_of_get?_builtin found
    have sound := sound_ofCommand objects keyword line fun field inFields =>
      (Builtin.regular builtin inFields).default.mono fun _ _ known => by
        cases known
    exact ⟨builtin, named.symm, sound⟩
  · rintro c before after ⟨builtin, named, sound⟩ sets
    have distinct := Parser.nodup_names (Builtin.wellNamed builtin).apart
    have kept := sound.sets distinct sets
    obtain ⟨_, _, _, _, _, _, _, rfl⟩ := sets
    exact ⟨builtin, named, kept⟩

theorem IsBuiltin.spellable {objects : ObjectTable} {invocation : Invocation}
    (builtin : invocation.IsBuiltin objects) :
    ∀ slot ∈ invocation.arguments.slots, slot.value.Spellable := by
  intro slot member
  rw [← map_snd_fields_zip builtin.sound.aligned] at member
  obtain ⟨pair, inside, rfl⟩ := List.mem_map.mp member
  have words := Builtin.hasWords builtin.command (List.of_mem_zip inside).1
  exact (builtin.sound.typed pair inside).spellable words

theorem IsBuiltin.wellFormed {objects : ObjectTable} {invocation : Invocation}
    (builtin : invocation.IsBuiltin objects)
    (exact : ∀ slot ∈ invocation.arguments.slots, slot.value.Exact) :
    invocation.WellFormed objects :=
  ⟨builtin.sound.aligned, builtin.sound.typed, builtin.spellable, exact⟩

end Invocation

end GridScript
