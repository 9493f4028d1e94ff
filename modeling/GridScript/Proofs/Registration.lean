import GridScript.Command.Registry
import Mathlib.Data.List.Pairwise

/-!
# Registering commands

Whatever is registered in whatever order, a registry holds the commands that it
accepted and nothing else, and their keywords tell them apart: a keyword leads
to the one command that has it as its name or as an alias.  A command is refused
exactly if one of its keywords would not tell it apart.
-/

namespace GridScript

/-- All keywords for a command. -/
def Command.keywords (command : Command) : List String :=
  command.name :: command.aliases

namespace Registry

/-! ### Attempts -/

/-- The registry after attempts to add commands, one after another. -/
def attemptAll (registry : Registry) (attempts : List Command) : Registry :=
  attempts.foldl (fun registry command => (registry.attempt command).2) registry

/-- The commands that are not refused, in order. -/
def accepted (registry : Registry) : List Command → List Command
  | [] => []
  | command :: more =>
      let done := registry.attempt command
      match done.1 with
      | .ok () => command :: done.2.accepted more
      | .error _ => done.2.accepted more

theorem attemptAll_append (registry : Registry) (earlier later : List Command) :
    registry.attemptAll (earlier ++ later) =
      (registry.attemptAll earlier).attemptAll later :=
  List.foldl_append

/-- A keyword of the command is taken, or the command takes one twice. -/
def Clashes (registry : Registry) (command : Command) : Prop :=
  registry.contains command.name = true ∨
    ∃ other ∈ command.aliases,
      registry.contains other = true ∨ other = command.name

/-- What runs second goes on from the registry that the first leaves, and not at
all if the first fails. -/
theorem run_bind {α β : Type} (first : Registration α)
    (next : α → Registration β) (registry : Registry) :
    (first >>= next).run.run registry =
      match first.run.run registry with
      | (.ok value, after) => (next value).run.run after
      | (.error cause, after) => (.error cause, after) := by
  rw [ExceptT.run_bind, StateT.run_bind]
  rcases first.run.run registry with ⟨_ | value, after⟩ <;> rfl

/-- A check changes nothing, whether it fails or not. -/
theorem run_require (registry : Registry) (keyword : String) (again : Bool) :
    (Registration.require keyword again).run.run registry =
      (if registry.contains keyword || again then
        .error (.duplicateCommand keyword) else .ok (), registry) := by
  have shape : (Registration.require keyword again).run.run registry =
      (if registry.contains keyword || again then
        throw (.duplicateCommand keyword) else pure () :
          Registration Unit).run.run registry := rfl
  rw [shape]
  split <;> rfl

theorem run_requireAll (registry : Registry) (name : String)
    (aliases : List String) :
    (aliases.forM fun other => Registration.require other
      (other == name)).run.run registry =
        (match aliases.find? fun other =>
            registry.contains other || other == name with
          | some taken => .error (.duplicateCommand taken)
          | none => .ok (), registry) := by
  induction aliases with
  | nil => rfl
  | cons other aliases induction =>
      rw [List.forM, run_bind, run_require, List.find?_cons]
      cases registry.contains other || other == name with
      | true => rfl
      | false => exact induction

theorem run_withAliases (registry : Registry) (name : String)
    (aliases : List String) :
    (aliases.forM fun other => (modify (·.withAlias other name) :
      Registration Unit)).run.run registry =
        (.ok (), { registry with
          aliases := registry.aliases ++ aliases.map (·, name) }) := by
  induction aliases generalizing registry with
  | nil =>
      simp only [List.map_nil, List.append_nil]
      rfl
  | cons other aliases induction =>
      rw [List.forM, run_bind]
      refine (induction (registry.withAlias other name)).trans ?_
      rw [withAlias, List.append_assoc, List.map_cons, List.singleton_append]

/-- What an attempt can come to. -/
theorem attempt_cases (registry : Registry) (command : Command) :
    (registry.Clashes command ∧
        ∃ cause, registry.attempt command = (.error cause, registry)) ∨
      (¬registry.Clashes command ∧
        registry.attempt command = (.ok (),
          { commands := registry.commands ++ [command]
            aliases := registry.aliases ++
              command.aliases.map (·, command.name) })) := by
  rw [attempt, Registration.add, run_bind, run_require, Bool.or_false]
  cases taken : registry.contains command.name with
  | true => exact .inl ⟨.inl taken, _, rfl⟩
  | false =>
      simp only [Bool.false_eq_true, if_false]
      rw [run_bind, run_requireAll]
      cases found : command.aliases.find? fun other =>
          registry.contains other || other == command.name with
      | some other =>
          have clash := List.find?_some found
          rw [Bool.or_eq_true, beq_iff_eq] at clash
          exact .inl ⟨.inr ⟨other, List.mem_of_find?_eq_some found, clash⟩, _,
            rfl⟩
      | none =>
          refine .inr ⟨?_, ?_⟩
          · rintro (isTaken | ⟨other, member, clash⟩)
            · rw [taken] at isTaken
              cases isTaken
            · have passed := List.find?_eq_none.mp found other member
              rw [Bool.or_eq_true, beq_iff_eq] at passed
              exact passed clash
          · simp only [run_bind, run_withAliases]
            rfl

theorem attempt_eq_error_iff (registry : Registry) (command : Command) :
    (∃ cause, (registry.attempt command).1 = .error cause) ↔
      registry.Clashes command := by
  rcases attempt_cases registry command with
    ⟨clash, cause, refused⟩ | ⟨free, done⟩
  · exact ⟨fun _ => clash, fun _ => ⟨cause, congrArg Prod.fst refused⟩⟩
  · refine ⟨?_, fun clash => absurd clash free⟩
    rintro ⟨cause, refused⟩
    rw [done] at refused
    cases refused

/-- A command that is refused leaves nothing behind. -/
theorem attempt_of_error {registry : Registry} {command : Command}
    {cause : CommandError}
    (refused : (registry.attempt command).1 = .error cause) :
    (registry.attempt command).2 = registry := by
  rcases attempt_cases registry command with ⟨_, _, whole⟩ | ⟨_, done⟩
  · rw [whole]
  · rw [done] at refused
    cases refused

/-! ### What a registry holds -/

/-- The registry holds just these commands.  No keyword belongs to two of them,
and none is the name of a command and its alias as well. -/
structure Holds (registry : Registry) (commands : List Command) : Prop where
  commands_eq : registry.commands = commands
  aliases_eq : registry.aliases =
    commands.flatMap fun command => command.aliases.map (·, command.name)
  apart : commands.Pairwise fun left right =>
    left.keywords.Disjoint right.keywords
  single : ∀ command ∈ commands, command.name ∉ command.aliases

namespace Holds

variable {registry : Registry} {commands : List Command}

/-- A keyword belongs to one command. -/
theorem eq_of_mem_keywords (holds : registry.Holds commands)
    {left right : Command} {keyword : String} (isLeft : left ∈ commands)
    (isRight : right ∈ commands) (inLeft : keyword ∈ left.keywords)
    (inRight : keyword ∈ right.keywords) : left = right := by
  by_contra differ
  have symmetric : Std.Symm fun left right : Command =>
      left.keywords.Disjoint right.keywords :=
    ⟨fun _ _ disjoint _ inRight inLeft => disjoint inLeft inRight⟩
  exact holds.apart.forall isLeft isRight differ inLeft inRight

theorem named?_eq_some_iff (holds : registry.Holds commands) {name : String}
    {command : Command} :
    registry.named? name = some command ↔
      command ∈ commands ∧ command.name = name := by
  rw [named?, holds.commands_eq]
  constructor
  · intro found
    exact ⟨List.mem_of_find?_eq_some found,
      by simpa using List.find?_some found⟩
  · rintro ⟨member, rfl⟩
    cases found : commands.find? (·.name == command.name) with
    | none =>
        have absent := List.find?_eq_none.mp found command member
        simp at absent
    | some other =>
        have same : other.name = command.name := by
          simpa using List.find?_some found
        rw [holds.eq_of_mem_keywords (List.mem_of_find?_eq_some found) member
          (same ▸ List.mem_cons_self) List.mem_cons_self]

theorem mem_aliases_iff (holds : registry.Holds commands)
    {keyword name : String} :
    (keyword, name) ∈ registry.aliases ↔
      ∃ command ∈ commands,
        keyword ∈ command.aliases ∧ command.name = name := by
  simp only [holds.aliases_eq, List.mem_flatMap, List.mem_map, Prod.mk.injEq]
  constructor
  · rintro ⟨command, member, _, inAliases, rfl, same⟩
    exact ⟨command, member, inAliases, same⟩
  · rintro ⟨command, member, inAliases, same⟩
    exact ⟨command, member, keyword, inAliases, rfl, same⟩

theorem aliased?_eq_some_iff (holds : registry.Holds commands)
    {keyword name : String} :
    registry.aliased? keyword = some name ↔
      ∃ command ∈ commands,
        keyword ∈ command.aliases ∧ command.name = name := by
  rw [← holds.mem_aliases_iff, aliased?]
  constructor
  · intro found
    obtain ⟨⟨other, target⟩, first, rfl⟩ := Option.map_eq_some_iff.mp found
    have same : other = keyword := by simpa using List.find?_some first
    exact same ▸ List.mem_of_find?_eq_some first
  · intro member
    cases found : registry.aliases.find? (·.1 == keyword) with
    | none =>
        have absent := List.find?_eq_none.mp found _ member
        simp at absent
    | some pair =>
        obtain ⟨other, target⟩ := pair
        have same : other = keyword := by simpa using List.find?_some found
        subst same
        -- The first entry for the alias may be of a list that repeats it.
        obtain ⟨left, isLeft, inLeft, rfl⟩ :=
          holds.mem_aliases_iff.mp (List.mem_of_find?_eq_some found)
        obtain ⟨right, isRight, inRight, rfl⟩ := holds.mem_aliases_iff.mp member
        rw [holds.eq_of_mem_keywords isLeft isRight
          (List.mem_cons_of_mem _ inLeft) (List.mem_cons_of_mem _ inRight)]
        rfl

/-- No keyword is both the name of a command and an alias. -/
theorem aliased?_eq_none (holds : registry.Holds commands) {keyword : String}
    {command : Command} (named : registry.named? keyword = some command) :
    registry.aliased? keyword = none := by
  obtain ⟨member, rfl⟩ := holds.named?_eq_some_iff.mp named
  cases found : registry.aliased? command.name with
  | none => rfl
  | some name =>
      obtain ⟨other, isOther, inOther, _⟩ := holds.aliased?_eq_some_iff.mp found
      have same := holds.eq_of_mem_keywords isOther member
        (List.mem_cons_of_mem _ inOther) List.mem_cons_self
      exact absurd (same ▸ inOther) (holds.single command member)

/-- A keyword leads to the command that has it. -/
theorem get?_eq_some_iff (holds : registry.Holds commands) {keyword : String}
    {command : Command} :
    registry.get? keyword = some command ↔
      command ∈ commands ∧ keyword ∈ command.keywords := by
  rw [get?, Option.orElse_eq_orElse, Option.orElse_eq_or, Option.or_eq_some_iff]
  constructor
  · rintro (named | ⟨_, aliased⟩)
    · obtain ⟨member, rfl⟩ := holds.named?_eq_some_iff.mp named
      exact ⟨member, List.mem_cons_self⟩
    · obtain ⟨name, isAlias, named⟩ := Option.bind_eq_some_iff.mp aliased
      obtain ⟨member, rfl⟩ := holds.named?_eq_some_iff.mp named
      obtain ⟨other, isOther, inOther, same⟩ :=
        holds.aliased?_eq_some_iff.mp isAlias
      have same := holds.eq_of_mem_keywords isOther member
        (same ▸ List.mem_cons_self) List.mem_cons_self
      exact ⟨member, List.mem_cons_of_mem _ (same ▸ inOther)⟩
  · rintro ⟨member, inKeywords⟩
    rcases List.mem_cons.mp inKeywords with rfl | inAliases
    · exact .inl (holds.named?_eq_some_iff.mpr ⟨member, rfl⟩)
    · have isAlias : registry.aliased? keyword = some command.name :=
        holds.aliased?_eq_some_iff.mpr ⟨command, member, inAliases, rfl⟩
      refine .inr ⟨?_, ?_⟩
      · cases found : registry.named? keyword with
        | none => rfl
        | some other =>
            rw [holds.aliased?_eq_none found] at isAlias
            cases isAlias
      · rw [isAlias]
        exact holds.named?_eq_some_iff.mpr ⟨member, rfl⟩

theorem contains_iff (holds : registry.Holds commands) {keyword : String} :
    registry.contains keyword = true ↔
      ∃ command ∈ commands, keyword ∈ command.keywords := by
  rw [contains, Bool.or_eq_true, Option.isSome_iff_exists,
    Option.isSome_iff_exists]
  simp only [holds.named?_eq_some_iff, holds.aliased?_eq_some_iff,
    Command.keywords, List.mem_cons]
  constructor
  · rintro (⟨command, member, rfl⟩ | ⟨_, command, member, inAliases, _⟩)
    · exact ⟨command, member, .inl rfl⟩
    · exact ⟨command, member, .inr inAliases⟩
  · rintro ⟨command, member, rfl | inAliases⟩
    · exact .inl ⟨command, member, rfl⟩
    · exact .inr ⟨_, command, member, inAliases, rfl⟩

/-- A command that does not clash is held from then on. -/
theorem append (holds : registry.Holds commands) {command : Command}
    (free : ¬registry.Clashes command) :
    Holds { commands := registry.commands ++ [command]
            aliases := registry.aliases ++
              command.aliases.map (·, command.name) }
      (commands ++ [command]) := by
  have untaken : ∀ keyword ∈ command.keywords,
      registry.contains keyword ≠ true := by
    intro keyword inKeywords taken
    rcases List.mem_cons.mp inKeywords with rfl | inAliases
    · exact free (.inl taken)
    · exact free (.inr ⟨keyword, inAliases, .inl taken⟩)
  refine ⟨by rw [holds.commands_eq], by simp [holds.aliases_eq], ?_, ?_⟩
  · refine List.pairwise_append.mpr
      ⟨holds.apart, List.pairwise_singleton _ _, ?_⟩
    intro other isOther new isNew keyword inOther inNew
    obtain rfl := List.mem_singleton.mp isNew
    exact untaken keyword inNew
      (holds.contains_iff.mpr ⟨other, isOther, inOther⟩)
  · intro other isOther
    rcases List.mem_append.mp isOther with earlier | isNew
    · exact holds.single other earlier
    · obtain rfl := List.mem_singleton.mp isNew
      intro twice
      exact free (.inr ⟨_, twice, .inr rfl⟩)

/-- Along any attempts, a registry holds what it accepts. -/
theorem attemptAll (holds : registry.Holds commands) (attempts : List Command) :
    (registry.attemptAll attempts).Holds
      (commands ++ registry.accepted attempts) := by
  induction attempts generalizing registry commands with
  | nil => simpa [Registry.attemptAll, accepted] using holds
  | cons command attempts induction =>
      rw [Registry.attemptAll, List.foldl_cons, ← Registry.attemptAll, accepted]
      rcases attempt_cases registry command with
        ⟨_, cause, refused⟩ | ⟨free, done⟩
      · simp only [refused]
        exact induction holds
      · simp only [done]
        have later := induction (holds.append free)
        rwa [List.append_assoc] at later

/-- The names are in strict order, each once. -/
theorem pairwise_names (holds : registry.Holds commands) :
    registry.names.Pairwise (· < ·) := by
  have ordered : registry.names.Pairwise (· ≤ ·) := by
    refine List.Pairwise.imp of_decide_eq_true
      (List.pairwise_mergeSort ?_ ?_ (registry.commands.map (·.name)))
    · intro first second third left right
      simp only [decide_eq_true_eq] at left right ⊢
      exact String.le_trans left right
    · intro left right
      simpa using String.le_total left right
  have distinct : registry.names.Nodup := by
    rw [names, (List.mergeSort_perm _ _).nodup_iff, holds.commands_eq,
      List.Nodup, List.pairwise_map]
    refine holds.apart.imp ?_
    intro left right disjoint same
    exact disjoint List.mem_cons_self (same ▸ List.mem_cons_self)
  exact (ordered.and distinct).imp fun related =>
    Std.lt_of_le_of_ne related.1 related.2

theorem perm_names (holds : registry.Holds commands) :
    registry.names.Perm (commands.map Command.name) := by
  rw [names, holds.commands_eq]
  exact List.mergeSort_perm _ _

end Holds

theorem holds_empty : empty.Holds [] :=
  ⟨rfl, rfl, .nil, by simp⟩

/-- A keyword is known exactly if it leads to a command. -/
theorem Holds.contains_eq {registry : Registry} {commands : List Command}
    (holds : registry.Holds commands) (keyword : String) :
    registry.contains keyword = (registry.get? keyword).isSome := by
  rw [Bool.eq_iff_iff, holds.contains_iff, Option.isSome_iff_exists]
  simp only [holds.get?_eq_some_iff]

/-- What a keyword leads to, it leads to whatever is registered later. -/
theorem Holds.get?_attemptAll {registry : Registry} {commands : List Command}
    (holds : registry.Holds commands) (later : List Command)
    {keyword : String} {command : Command}
    (found : registry.get? keyword = some command) :
    (registry.attemptAll later).get? keyword = some command := by
  obtain ⟨member, inKeywords⟩ := holds.get?_eq_some_iff.mp found
  exact (holds.attemptAll later).get?_eq_some_iff.mpr
    ⟨List.mem_append_left _ member, inKeywords⟩

/-- Whatever was registered and refused before, no keyword is both a name and
an alias, every alias leads to a command, and every command stands under its
own name; the names are those of the accepted commands, in strict order.  A
command is refused exactly if it clashes, and then nothing changes; and a
keyword that leads to a command leads to the same one for ever. -/
theorem attemptAll_keeps_keywords_apart (attempts : List Command) :
    let registry := empty.attemptAll attempts
    (∀ keyword,
      registry.named? keyword = none ∨ registry.aliased? keyword = none) ∧
    (∀ keyword name, registry.aliased? keyword = some name →
      ∃ command, registry.named? name = some command ∧
        registry.get? keyword = some command) ∧
    (∀ name command, registry.named? name = some command →
      command.name = name) ∧
    (∀ command ∈ registry.commands,
      registry.named? command.name = some command) ∧
    (∀ keyword, registry.contains keyword = (registry.get? keyword).isSome) ∧
    registry.names.Pairwise (· < ·) ∧
    registry.names.Perm ((empty.accepted attempts).map Command.name) ∧
    registry.size = registry.names.length ∧
    (∀ command,
      ((∃ cause, (registry.attempt command).1 = .error cause) ↔
        registry.contains command.name = true ∨
          ∃ other ∈ command.aliases,
            registry.contains other = true ∨ other = command.name) ∧
      ∀ cause, (registry.attempt command).1 = .error cause →
        (registry.attempt command).2 = registry) ∧
    ∀ later keyword command, registry.get? keyword = some command →
      (empty.attemptAll (attempts ++ later)).get? keyword = some command := by
  intro registry
  have holds : registry.Holds (empty.accepted attempts) :=
    holds_empty.attemptAll attempts
  refine ⟨?_, ?_, ?_, ?_, holds.contains_eq, holds.pairwise_names,
    holds.perm_names, ?_, ?_, ?_⟩
  · intro keyword
    cases found : registry.named? keyword with
    | none => exact .inl rfl
    | some command => exact .inr (holds.aliased?_eq_none found)
  · intro keyword name isAlias
    obtain ⟨command, member, inAliases, rfl⟩ :=
      holds.aliased?_eq_some_iff.mp isAlias
    exact ⟨command, holds.named?_eq_some_iff.mpr ⟨member, rfl⟩,
      holds.get?_eq_some_iff.mpr ⟨member, List.mem_cons_of_mem _ inAliases⟩⟩
  · intro name command found
    exact (holds.named?_eq_some_iff.mp found).2
  · intro command member
    exact holds.named?_eq_some_iff.mpr ⟨holds.commands_eq ▸ member, rfl⟩
  · rw [holds.perm_names.length_eq, List.length_map, size, holds.commands_eq]
  · intro command
    exact ⟨attempt_eq_error_iff registry command, fun _ => attempt_of_error⟩
  · intro later keyword command found
    rw [attemptAll_append]
    exact holds.get?_attemptAll later found

/-- A command whose list of aliases repeats one. -/
def sweep : Command :=
  { name := "sweep", aliases := ["clean", "clean"], run := fun _ => pure .ok }

/-- A command under a name that is an alias of `sweep`. -/
def clean : Command :=
  { name := "clean", run := fun _ => pure .ok }

theorem attemptAll_keeps_keywords_apart_refusing :
    (∃ cause, ((empty.attemptAll [sweep]).attempt clean).1 = .error cause) ∧
      ((empty.attemptAll [sweep]).attempt clean).2 = empty.attemptAll [sweep] ∧
      (empty.attemptAll ([sweep] ++ [clean])).get? "clean" = some sweep := by
  obtain ⟨_, _, _, _, _, _, _, _, refuses, leads⟩ :=
    attemptAll_keeps_keywords_apart [sweep]
  have taken :
      (empty.attemptAll [sweep]).contains clean.name = true := by decide
  obtain ⟨cause, refused⟩ := (refuses clean).1.mpr (.inl taken)
  exact ⟨⟨cause, refused⟩, (refuses clean).2 cause refused,
    leads [clean] "clean" sweep rfl⟩

end Registry

end GridScript
