import GridScript.Proofs.LogText

/-!
# What was read is read again

Whatever a script says, the text of each invocation that comes out of it is read
as one invocation of the same command.  It is read without errors, but for
doubles that were too large to be finite.
-/

namespace GridScript

theorem map_errorsOf {diagnostics : List Diagnostic}
    (onlyErrors : ∀ d ∈ diagnostics, d.isError = true) :
    (errorsOf diagnostics).map (Severity.error, ·) =
      diagnostics.map fun d => (d.severity, d.problem) := by
  rw [errorsOf, List.filter_eq_self.mpr onlyErrors, List.map_map]
  apply List.map_congr_left
  intro d member
  have isError := onlyErrors d member
  rw [Diagnostic.isError, beq_iff_eq] at isError
  rw [isError]
  rfl

theorem ParsedScript.errorsOf_eq_nil_iff (parsed : ParsedScript) :
    errorsOf parsed.diagnostics = [] ↔ parsed.hasErrors = false := by
  rw [hasErrors, List.any_eq_false, errorsOf, List.map_eq_nil_iff,
    List.filter_eq_nil_iff]

/-- Whether a value of the type may hold a double. -/
def ValueType.mayHoldDouble : ValueType → Bool
  | .double => true
  | .array element => element.mayHoldDouble
  | _ => false

/-- Whether doubles stand alone in values of the type. -/
def ValueType.keepsDoublesApart : ValueType → Bool
  | .array element => !element.mayHoldDouble
  | _ => true

namespace Value

theorem HasType.exact {objects : ObjectTable} {type : ValueType}
    {value : Value} (typed : value.HasType objects type)
    (none : type.mayHoldDouble = false) : value.Exact := by
  intro d inside
  induction typed with
  | double => cases none
  | array _ induction =>
      obtain ⟨item, member, inItem⟩ := exists_mem_of_mem_leavesOf inside
      exact induction item member none inItem
  | references _ induction =>
      obtain ⟨item, member, inItem⟩ := exists_mem_of_mem_leavesOf inside
      exact induction item member none inItem
  | _ => simp [leaves] at inside

theorem HasType.settled {objects : ObjectTable} {type : ValueType}
    {value : Value} (typed : value.HasType objects type)
    (apart : type.keepsDoublesApart = true) : value.Settled := by
  cases holds : type.mayHoldDouble with
  | false => exact .inr (typed.exact holds)
  | true =>
      cases typed with
      | double d => exact .inl ⟨d, rfl⟩
      | array items =>
          rw [ValueType.mayHoldDouble] at holds
          rw [ValueType.keepsDoublesApart, holds] at apart
          cases apart
      | _ => cases holds

theorem readErrors_eq_nil_iff (value : Value) :
    value.readErrors = [] ↔ ∀ d, value = double d → d.isFinite = true := by
  unfold readErrors
  split
  · rename_i d
    cases finite : d.isFinite with
    | true => simp [finite]
    | false => simp [finite]
  · rename_i other
    simp only [true_iff]
    intro d same
    exact absurd same (other d)

end Value

theorem Builtin.keepsDoublesApart {command : Command}
    (builtin : command ∈ commands) {field : Field}
    (member : field ∈ command.fields) :
    field.type.keepsDoublesApart = true := by
  have all : ∀ command ∈ commands, ∀ field ∈ command.fields,
      field.type.keepsDoublesApart = true := by decide
  exact all command builtin field member

namespace Invocation

theorem IsBuiltin.spelled {objects : ObjectTable} {invocation : Invocation}
    (builtin : invocation.IsBuiltin objects) : invocation.Spelled objects := by
  refine ⟨builtin.sound.aligned, builtin.sound.typed, builtin.spellable, ?_⟩
  intro slot member
  rw [← map_snd_fields_zip builtin.sound.aligned] at member
  obtain ⟨pair, inside, rfl⟩ := List.mem_map.mp member
  exact (builtin.sound.typed pair inside).settled
    (Builtin.keepsDoublesApart builtin.command (List.of_mem_zip inside).1)

/-- What is not shown for being a null reference has no errors either. -/
theorem flatMap_readErrors_shown {pairs : List (Field × Slot)}
    (scriptable : ∀ pair ∈ pairs, pair.1.scriptable = true) :
    (pairs.filter fun pair => pair.1.shows pair.2.value).flatMap
        (fun pair => pair.2.value.readErrors) =
      pairs.flatMap fun pair => pair.2.value.readErrors := by
  induction pairs with
  | nil => rfl
  | cons pair pairs induction =>
      have later := induction fun other member =>
        scriptable other (List.mem_cons_of_mem _ member)
      rw [List.filter_cons, List.flatMap_cons]
      split
      · rw [List.flatMap_cons, later]
      · -- Only null references are hidden, and those are no doubles.
        rename_i hidden
        rw [Field.shows, scriptable pair List.mem_cons_self] at hidden
        have silent : pair.2.value.readErrors = [] := by
          rw [Value.readErrors_eq_nil_iff]
          intro d same
          simp [same, Value.isNullReference] at hidden
        rw [silent, later]
        rfl

theorem IsBuiltin.readErrors_eq {objects : ObjectTable}
    {invocation : Invocation} (builtin : invocation.IsBuiltin objects) :
    invocation.readErrors {} =
      invocation.arguments.slots.flatMap (·.value.readErrors) := by
  have plain : argumentErrors {} = fun pair => pair.2.readErrors := rfl
  have slots : (invocation.fields.zip invocation.arguments.slots).flatMap
      (fun pair => pair.2.value.readErrors) =
        invocation.arguments.slots.flatMap (·.value.readErrors) := by
    rw [← List.flatMap_map Prod.snd fun slot : Slot => slot.value.readErrors,
      map_snd_fields_zip builtin.sound.aligned]
  rw [readErrors, plain, shownFields, List.flatMap_map, ← slots]
  apply flatMap_readErrors_shown
  intro pair member
  exact (Builtin.regular builtin.command (List.of_mem_zip member).1).scriptable

/-- Parsing the text of an invocation gives it as it can be read, with an error
for each argument that cannot. -/
theorem parseScript_heard {registry : Registry} {objects : ObjectTable}
    {invocation : Invocation}
    (registered : registry.get? invocation.name = some invocation.command)
    (named : invocation.command.WellNamed)
    (spelled : invocation.Spelled objects) :
    let again := parseScript registry {} objects invocation.toScript
    again.invocations = [invocation.heard objects 1] ∧
      errorsOf again.diagnostics = invocation.readErrors {} ∧
      ∀ d ∈ again.diagnostics, d.isError = true := by
  have unread : (Cursor.ofText invocation.toScript).rest =
      invocation.toScript.toList ++ [] := by
    simp [Cursor.ofText]
  obtain ⟨head, tail, first, starts⟩ := exists_cons_toScript named []
  obtain ⟨read, crosses⟩ := readStatement_heard registered named spelled {}
    objects ⟨rfl, rfl⟩ unread
  have done : (Parser.readStatement registry {} objects
      (.ofText invocation.toScript)).2.rest = [] :=
    List.append_cancel_left (crosses.rest.symm.trans unread)
  obtain ⟨added, ends, errors, quiet⟩ := crosses.reported
  have known : ∀ pair ∈ invocation.shownFields, pair.2.KnownIn objects := by
    intro pair member
    exact (spelled.isSpelled member).typed.knownIn
  rw [parseScript, Parser.readScript_statement registry objects
    (unread.trans first) starts]
  simp only [Parser.readScript_end registry {} objects done, read, ends]
  exact ⟨rfl, errors, quiet known⟩

/-- The text of an invocation that came out of a script is read as one
invocation of the same command.  Its errors are one for each double that is not
finite; so there are none exactly if every double is finite. -/
theorem parseScript_again {objects : ObjectTable} {text : String}
    {invocation : Invocation}
    (member : invocation ∈ (parseScript .builtin {} objects text).invocations) :
    let again := parseScript .builtin {} objects invocation.toScript
    again.invocations.map name = [invocation.name] ∧
      again.diagnostics.map (fun d => (d.severity, d.problem)) =
        (invocation.arguments.slots.flatMap (·.value.readErrors)).map
          (Severity.error, ·) ∧
      (again.hasErrors = false ↔ ∀ slot ∈ invocation.arguments.slots,
        ∀ d, slot.value = .double d → d.isFinite = true) := by
  intro again
  have builtin := isBuiltin_of_mem member
  obtain ⟨invocations, errors, onlyErrors⟩ := parseScript_heard
    (Registry.get?_builtin builtin.command) (Builtin.wellNamed builtin.command)
    builtin.spelled
  rw [builtin.readErrors_eq] at errors
  refine ⟨?_, ?_, ?_⟩
  · rw [invocations]
    rfl
  · rw [← errors, map_errorsOf onlyErrors]
  · rw [← ParsedScript.errorsOf_eq_nil_iff, errors, List.flatMap_eq_nil_iff]
    simp only [Value.readErrors_eq_nil_iff]

/-- The text has a double that is too large, and then one that is not. -/
theorem parseScript_again_overflowing :
    let text := "exportProperty(property=\"P\", undefinedValue=-1e400)\n" ++
      "exportProperty(property=\"P\", undefinedValue=-1e300)"
    let read := parseScript .builtin {} .empty text
    ∃ large ∈ read.invocations, ∃ small ∈ read.invocations,
      let again := fun invocation : Invocation =>
        parseScript .builtin {} .empty invocation.toScript
      (again large).invocations.map name = ["exportProperty"] ∧
        (again large).diagnostics.map (·.problem) =
          [.invalidNumber "-inf"] ∧
        (again small).invocations.map name = ["exportProperty"] ∧
        (again small).hasErrors = false := by
  intro text read
  have listed : read.invocations.map (fun invocation => (invocation.name,
      invocation.arguments.slots.flatMap (·.value.readErrors))) =
        [("exportProperty", [.invalidNumber "-inf"]),
          ("exportProperty", [])] := by
    decide +kernel
  obtain ⟨large, inLarge, ofLarge⟩ := List.mem_map.mp
    (listed ▸ List.mem_cons_self)
  obtain ⟨small, inSmall, ofSmall⟩ := List.mem_map.mp
    (listed ▸ List.mem_cons_of_mem _ List.mem_cons_self)
  rw [Prod.mk.injEq] at ofLarge ofSmall
  obtain ⟨largeNames, largeErrors, _⟩ := parseScript_again inLarge
  obtain ⟨smallNames, _, noErrors⟩ := parseScript_again inSmall
  rw [ofLarge.2] at largeErrors
  refine ⟨large, inLarge, small, inSmall, ?_, ?_, ?_, ?_⟩
  · rw [largeNames, ofLarge.1]
  · have problems := congrArg (List.map Prod.snd) largeErrors
    rwa [List.map_map, List.map_map] at problems
  · rw [smallNames, ofSmall.1]
  · apply noErrors.mpr
    intro slot member d same
    exact (Value.readErrors_eq_nil_iff slot.value).mp
      (List.flatMap_eq_nil_iff.mp ofSmall.2 slot member) d same

/-- Not all that was read can be read again. -/
theorem not_forall_parseScript_again :
    ¬∀ (objects : ObjectTable) (text : String),
      ∀ invocation ∈ (parseScript .builtin {} objects text).invocations,
        let again := parseScript .builtin {} objects invocation.toScript
        again.invocations.map name = [invocation.name] ∧
          again.hasErrors = false := by
  intro claimed
  let text := "exportProperty(property=\"P\", undefinedValue=1e400)"
  have failing : ((parseScript .builtin {} .empty text).invocations.any
      fun invocation => (parseScript .builtin {} .empty
        invocation.toScript).hasErrors) = true := by
    decide +kernel
  obtain ⟨invocation, member, hasErrors⟩ := List.any_eq_true.mp failing
  rw [(claimed .empty text invocation member).2] at hasErrors
  cases hasErrors

end Invocation

end GridScript
