import GridScript.Proofs.TomlLines
import GridScript.Settings.Reader
import GridScript.Settings.Writer

/-!
# Settings are read back

Settings are written as a document of three sections.  The document is read as
these sections, whatever characters stand in a comment mark or in the names of
folders, and the sections hold the settings they were written for.
-/

namespace GridScript

/-! ### Entries by kind -/

namespace ByKind

/-- The entries of each kind decide everything. -/
theorem ext_get? {α : Type} {left right : ByKind α}
    (same : ∀ kind, left.get? kind = right.get? kind) : left = right := by
  cases left
  cases right
  rw [mk.injEq]
  exact ⟨same .completions, same .snapshots, same .properties,
    same .statistics, same .wellPaths, same .cells, same .lgrs⟩

/-- Entries that are put in one by one are there in the end, in place of what
was there at the start. -/
theorem get?_foldl_insert {α : Type} (entries : ByKind α)
    (kinds : List ExportKind) (start : ByKind α) (kind : ExportKind) :
    ((kinds.filterMap fun kind => (entries.get? kind).map (kind, ·)).foldl
        (fun found entry => found.insert entry.1 entry.2) start).get? kind =
      if kind ∈ kinds then (entries.get? kind).or (start.get? kind)
      else start.get? kind := by
  induction kinds generalizing start with
  | nil => rfl
  | cons first kinds induction =>
      cases entry : entries.get? first with
      | none =>
          have skipped := induction start
          by_cases same : kind = first
          · subst same
            simpa [entry] using skipped
          · simpa [entry, same] using skipped
      | some value =>
          have others := induction (start.insert first value)
          by_cases same : kind = first
          · subst same
            simpa [entry] using others
          · simpa [entry, same, get?_insert_of_ne start value same] using others

theorem foldl_insert_toList {α : Type} (entries : ByKind α) :
    entries.toList.foldl (fun found entry => found.insert entry.1 entry.2)
      .empty = entries := by
  apply ext_get?
  intro kind
  have nothing : (empty : ByKind α).get? kind = none := by
    cases kind <;> rfl
  rw [toList, get?_foldl_insert, if_pos (ExportKind.mem_all kind), nothing,
    Option.or_none]

/-- No kind has two entries. -/
theorem nodup_folderNames {α : Type} (entries : ByKind α) :
    (entries.toList.map (·.1.folderName)).Nodup := by
  have apart : ExportKind.all.Pairwise
      fun kind other => kind.folderName ≠ other.folderName := by decide
  rw [List.Nodup, List.pairwise_map, toList, List.pairwise_filterMap]
  refine apart.imp fun {kind other} different => ?_
  intro entry found otherEntry otherFound
  obtain ⟨_, _, rfl⟩ := Option.map_eq_some_iff.mp found
  obtain ⟨_, _, rfl⟩ := Option.map_eq_some_iff.mp otherFound
  exact different

end ByKind

namespace Settings

open Toml

/-! ### The sections -/

def dialectSection (dialect : Dialect) : Section where
  name := "syntax"
  fields := [
    ("argument_separator", .string dialect.separator.settingName),
    ("allow_positional", .boolean dialect.positional),
    ("comment_prefix", .string (String.singleton dialect.comment))]

def policySection (policy : Policy) : Section where
  name := "execution"
  fields := [
    ("stop_on_error", .boolean policy.stopOnError),
    ("skip_execution_on_parse_errors", .boolean policy.skipOnParseErrors),
    ("echo", .boolean policy.echo)]

def foldersSection (folders : ByKind String) : Section where
  path := ["export"]
  name := "default_folders"
  fields := folders.toList.map fun (kind, folder) =>
    (kind.folderName, .string folder)

/-- What the document of settings is made of. -/
def sections (settings : Settings) : List Section :=
  [dialectSection settings.dialect, policySection settings.policy,
    foldersSection settings.folders]

/-! ### The text -/

theorem spells_boolText (value : Bool) :
    Spells (boolText value).toList (.boolean value) := by
  cases value with
  | true => exact ⟨by rintro c ⟨⟩; decide, fun _ => rfl⟩
  | false => exact ⟨by rintro c ⟨⟩; decide, fun _ => rfl⟩

theorem spells_quotedText (text : String) :
    Spells (quotedText text).toList (.string text) := by
  rw [quotedText, String.toList_ofList]
  exact spells_quoted text

theorem lines_settingLine (name : String) {value : String} {toml : Toml}
    {text : List Char} {statements : List TomlStatement}
    (bare : IsBareName name) (spells : Spells value.toList toml)
    (more : Lines text statements) :
    Lines ((settingLine name value).toList ++ text)
      (.assignment [] name toml :: statements) := by
  simpa [settingLine] using Lines.assignment bare spells more

theorem isBareName_folderName (kind : ExportKind) :
    IsBareName kind.folderName := by
  cases kind <;> decide

theorem lines_folders (folders : List (ExportKind × String)) :
    Lines (String.join (folders.map fun (kind, folder) =>
        settingLine kind.folderName (quotedText folder))).toList
      (folders.map fun (kind, folder) =>
        .assignment [] kind.folderName (.string folder)) := by
  induction folders with
  | nil => exact .nil
  | cons folder folders induction =>
      rw [String.toList_join] at induction ⊢
      exact lines_settingLine _ (isBareName_folderName folder.1)
        (spells_quotedText folder.2) induction

section

variable {text : List Char} {statements : List TomlStatement}

theorem lines_dialectText (dialect : Dialect) (more : Lines text statements) :
    Lines ((dialectText dialect).toList ++ text)
      ((dialectSection dialect).statements ++ statements) := by
  have lines := Lines.header [] "syntax" (by decide) (by decide)
    (lines_settingLine "argument_separator" (by decide)
      (spells_quotedText dialect.separator.settingName)
      (lines_settingLine "allow_positional" (by decide)
        (spells_boolText dialect.positional)
        (lines_settingLine "comment_prefix" (by decide)
          (spells_quotedText (String.singleton dialect.comment)) more)))
  simpa [dialectText, dialectSection, Section.statements, dotted] using lines

theorem lines_policyText (policy : Policy) (more : Lines text statements) :
    Lines ((policyText policy).toList ++ text)
      ((policySection policy).statements ++ statements) := by
  have lines := Lines.header [] "execution" (by decide) (by decide)
    (lines_settingLine "stop_on_error" (by decide)
      (spells_boolText policy.stopOnError)
      (lines_settingLine "skip_execution_on_parse_errors" (by decide)
        (spells_boolText policy.skipOnParseErrors)
        (lines_settingLine "echo" (by decide)
          (spells_boolText policy.echo) more)))
  simpa [policyText, policySection, Section.statements, dotted] using lines

end

theorem lines_foldersText (folders : ByKind String) :
    Lines (foldersText folders).toList (foldersSection folders).statements := by
  have lines := Lines.header ["export"] "default_folders" (by decide)
    (by decide) (lines_folders folders.toList)
  change Lines ("[export.default_folders]\n" ++ String.join _).toList _
  simpa [foldersSection, Section.statements, dotted, Function.comp_def]
    using lines

theorem lines_toToml (settings : Settings) :
    Lines settings.toToml.toList
      (settings.sections.flatMap Section.statements) := by
  have lines := lines_dialectText settings.dialect (.blank
    (lines_policyText settings.policy (.blank
      (lines_foldersText settings.folders))))
  simpa [toToml, joinWith, sections] using lines

/-! ### The meaning -/

/-- Folders are read by the names of their kinds, one after the other. -/
theorem foldlM_folders (folders : List (ExportKind × String))
    (start : ByKind String) :
    (folders.map fun folder =>
        (folder.1.folderName, Toml.string folder.2)).foldlM
        (fun found field => do
          return found.insert (← ExportKind.ofFolderName? field.1)
            (← text? field.2))
        start =
      some (folders.foldl
        (fun found folder => found.insert folder.1 folder.2) start) := by
  induction folders generalizing start with
  | nil => rfl
  | cons folder folders induction =>
      have others := induction (start.insert folder.1 folder.2)
      simpa [ExportKind.ofFolderName?_folderName, text?] using others

theorem folders?_section (folders : ByKind String) :
    folders? (.table .header (foldersSection folders).fields) =
      some folders := by
  rw [folders?, foldersSection, foldlM_folders, ByKind.foldl_insert_toList]

theorem dialect?_section (dialect : Dialect) :
    dialect? (.table .header (dialectSection dialect).fields) =
      some dialect := by
  simp [dialect?, fieldsOf?, fieldOr, TomlEntries.get?, dialectSection,
    separator?, bool?, char?, Separator.ofSettingName?_settingName]

theorem policy?_section (policy : Policy) :
    policy? (.table .header (policySection policy).fields) = some policy := by
  simp [policy?, fieldsOf?, fieldOr, TomlEntries.get?, policySection, bool?]

theorem ofEntries?_sections (settings : Settings) :
    ofEntries? (settings.sections.map Section.entry) = some settings := by
  have exports : exports? (.table .path [("default_folders",
      .table .header (foldersSection settings.folders).fields)]) =
        some settings.folders := by
    simp [exports?, fieldsOf?, fieldOr, TomlEntries.get?, folders?_section]
  have entries : settings.sections.map Section.entry =
      [("syntax", .table .header (dialectSection settings.dialect).fields),
        ("execution", .table .header (policySection settings.policy).fields),
        ("export", .table .path [("default_folders",
          .table .header (foldersSection settings.folders).fields)])] := rfl
  simp [ofEntries?, entries, fieldOr, TomlEntries.get?, dialect?_section,
    policy?_section, exports]

theorem nodup_fields {settings : Settings} {part : Section}
    (member : part ∈ settings.sections) : (part.fields.map (·.1)).Nodup := by
  simp only [sections, List.mem_cons, List.not_mem_nil, or_false] at member
  rcases member with rfl | rfl | rfl
  · simp [dialectSection]
  · simp [policySection]
  · simpa [foldersSection, Function.comp_def] using
      settings.folders.nodup_folderNames

/-- Settings that are written are the settings that are read. -/
theorem parse?_toToml (settings : Settings) :
    parse? settings.toToml = some settings := by
  have apart : (settings.sections.map (·.entry.1)).Nodup := by
    change ["syntax", "execution", "export"].Nodup
    decide
  rw [parse?, (lines_toToml settings).parse?,
    ofStatements?_sections apart fun _ member => nodup_fields member,
    Option.bind_some, ofEntries?_sections]

end Settings

end GridScript
