import GridScript.Proofs.CommandText
import GridScript.Proofs.Statements

/-!
# Invocations survive their own text

Parsing the script text of an invocation gives the invocation back, up to what
the text cannot say: internal fields and null references.
-/

namespace GridScript

namespace Invocation

theorem exists_cons_toScript {invocation : Invocation}
    (named : invocation.command.WellNamed) (rest : List Char) :
    ∃ head tail, invocation.toScript.toList ++ rest = head :: tail ∧
      isWordStart head = true := by
  obtain ⟨head, tail, chars, starts, _⟩ :=
    Parser.exists_cons_of_isIdentifier named.name
  have text : invocation.toScript.toList ++ rest = head :: (tail ++
      '(' :: (commaSeparated invocation.shownArguments ++ [')']) ++ rest) := by
    rw [toScript, String.toList_ofList, name, chars]
    rfl
  exact ⟨head, _, text, starts⟩

/-- Where every object is known, resolving changes nothing. -/
theorem resolved_restated {objects : ObjectTable} {invocation : Invocation}
    (line : Nat)
    (known : ∀ slot ∈ invocation.arguments.slots, slot.value.KnownIn objects) :
    (invocation.restated line).resolved objects = invocation.restated line := by
  have slots : (invocation.restated line).arguments.slots.map
      (Slot.resolved objects) = (invocation.restated line).arguments.slots := by
    refine (List.map_congr_left ?_).trans (List.map_id _)
    intro slot member
    simp only [restated, ← List.map_uncurry_zip_eq_zipWith] at member
    obtain ⟨⟨field, original⟩, inside, rfl⟩ := List.mem_map.mp member
    have same := Value.resolved_eq_self _
      (known original (List.of_mem_zip inside).2).pruned
    simp only [Function.uncurry_apply_pair, Field.restated, Slot.resolved,
      Field.initial]
    split <;> simp [same]
  rw [resolved, slots]

/-- Parsing the text of an invocation of a registered command gives exactly
this invocation, without any diagnostic: shown arguments have their values less
the null references in arrays, and all other fields have their defaults. -/
theorem parseScript_toScript {registry : Registry} {objects : ObjectTable}
    {invocation : Invocation}
    (registered : registry.named? invocation.name = some invocation.command)
    (named : invocation.command.WellNamed)
    (wellFormed : invocation.WellFormed objects) :
    parseScript registry {} objects invocation.toScript =
      ⟨[invocation.restated 1], []⟩ := by
  have found : registry.get? invocation.name = some invocation.command := by
    simp [Registry.get?, registered]
  have unread : (Cursor.ofText invocation.toScript).rest =
      invocation.toScript.toList ++ [] := by
    simp [Cursor.ofText]
  have known : ∀ slot ∈ invocation.arguments.slots,
      slot.value.KnownIn objects := by
    intro slot member
    rw [← map_snd_fields_zip wellFormed.aligned] at member
    obtain ⟨pair, inside, rfl⟩ := List.mem_map.mp member
    exact (wellFormed.typed pair inside).knownIn
  obtain ⟨head, tail, first, starts⟩ := exists_cons_toScript named []
  obtain ⟨invocations, passes⟩ := readStatement_toScript found named wellFormed
    objects ⟨rfl, rfl⟩ unread
  have done : (Parser.readStatement registry {} objects
      (.ofText invocation.toScript)).2.rest = [] :=
    List.append_cancel_left (passes.rest.symm.trans unread)
  have quiet := passes.eq_behind fun pair member => by
    obtain ⟨slot, inside, same, _⟩ := mem_shownFields member
    rw [same]
    exact known slot (List.of_mem_zip inside).2
  rw [parseScript, Parser.readScript_statement registry objects
    (unread.trans first) starts]
  simp only [Parser.readScript_end registry {} objects done, invocations,
    resolved_restated _ known]
  rw [quiet]
  rfl

/-- A command with a field of most types, one of them internal. -/
def survey : Command :=
  { name := "survey"
    fields :=
      [{ name := "title", type := .string, default := .string "" },
        { name := "layers", type := .array (.array .int)
          default := .array [] },
        { name := "mode", type := .enumeration ⟨"Mode", ["FAST", "SLOW"]⟩
          default := .variant "FAST" },
        { name := "factor", type := .double, default := .double .zero },
        { name := "views", type := .references "View", default := .array [] },
        { name := "origin", type := .reference "View"
          default := .reference none },
        { name := "serial", type := .int, default := .int 7
          scriptable := false }]
    run := fun _ => pure .ok }

/-- A use of `survey` whose text needs escapes, nests arrays and leaves out
null references. -/
def surveyed : Invocation :=
  { keyword := "survey"
    line := 4
    command := survey
    arguments := ⟨[⟨"title", .string "a \"b\", c)\n\\", true⟩,
      ⟨"layers", .array [.array [.int 1, .int (-2)], .array []], true⟩,
      ⟨"mode", .variant "SLOW", true⟩,
      ⟨"factor", .double ⟨0x3FE0000000000000⟩, true⟩,
      ⟨"views", .array [.reference none, .reference (some ⟨"View", 3⟩)], true⟩,
      ⟨"origin", .reference none, false⟩,
      ⟨"serial", .int 9, true⟩]⟩ }

theorem parseScript_toScript_surveyed :
    parseScript { commands := [survey] } {} (.ofList [⟨"View", 3⟩])
        surveyed.toScript =
      ⟨[{ keyword := "survey"
          line := 1
          command := survey
          arguments := ⟨[⟨"title", .string "a \"b\", c)\n\\", true⟩,
            ⟨"layers", .array [.array [.int 1, .int (-2)], .array []], true⟩,
            ⟨"mode", .variant "SLOW", true⟩,
            ⟨"factor", .double ⟨0x3FE0000000000000⟩, true⟩,
            ⟨"views", .array [.reference (some ⟨"View", 3⟩)], true⟩,
            ⟨"origin", .reference none, false⟩,
            ⟨"serial", .int 7, false⟩]⟩ }], []⟩ := by
  have named : survey.WellNamed :=
    ⟨by decide, by decide, Parser.pairwise_of_nodup_names (by decide)⟩
  have wellFormed : surveyed.WellFormed (.ofList [⟨"View", 3⟩]) :=
    ⟨rfl, by decide +kernel, by decide +kernel, by decide +kernel⟩
  have registered : Registry.named? { commands := [survey] } surveyed.name =
      some surveyed.command := rfl
  exact parseScript_toScript registered named wellFormed

end Invocation

end GridScript
